import NotificationBroker.Properties.KeysetPages
import NotificationBroker.Properties.TenantWrites

/-!
# What a user is shown

The answers that a user gets, and what becomes of the user's deliveries, depend on nothing but
these deliveries and the notifications that they refer to. `reads_isolated` compares a call on
two states of the tables that agree on them (`World.AgreeFor`): the two answers are one, up to
the identifier of a replay, and afterwards the user's deliveries are the same again.

Each query is shown to return one result in the two worlds: a row is found by a predicate that
the user's rows alone can meet (`find?_eq_of_mem_iff`), and a sorted list is determined by its
members. The services then run in lockstep.
-/

namespace NotificationBroker

open Interleave Python
open ReadCommitted (Table)

/-! ### Two worlds -/

/-- The user's deliveries are the same. -/
def World.SameFor (userId : UUID) (w₁ w₂ : World) : Prop :=
  ∀ d : Delivery, d.userId = userId →
    (d ∈ w₁.deliveries.committed ↔ d ∈ w₂.deliveries.committed)

/-- The tables show the user the same: the user's deliveries, and the notifications that they
refer to. -/
structure World.AgreeFor (userId : UUID) (w₁ w₂ : World) : Prop where
  deliveries : w₁.SameFor userId w₂
  notifications : ∀ d ∈ w₁.deliveries.committed, d.userId = userId →
    ∀ n : Notification, n.id = d.notificationId →
      (n ∈ w₁.notifications.committed ↔ n ∈ w₂.notifications.committed)

/-- The primary keys of the tables that are read. -/
structure World.Keyed (w : World) : Prop where
  deliveries : (w.deliveries.committed.map Delivery.id).Nodup
  notifications : (w.notifications.committed.map Notification.id).Nodup

theorem World.Keyed.record {w : World} (h : w.Keyed) (event : Event) : (w.record event).Keyed :=
  ⟨h.deliveries, h.notifications⟩

/-- What the environment supplies to a call that runs alone: the time, and the identifier of a
replay. No other transaction holds a row, so that none is skipped. -/
def Choice.Supplies (reading : Datetime) (replayId : UUID) : Choice → Prop
  | .time value => value = reading
  | .retry skipped candidateReplayId _ _ => skipped = [] ∧ candidateReplayId = replayId
  | _ => True

/-- The same replay, if there is one: the identifiers that two calls generate differ. -/
def SameReplay (replayId₁ replayId₂ : UUID) (x y : Option UUID) : Prop :=
  x = y ∨ (x = some replayId₁ ∧ y = some replayId₂)

/-- The same row, up to the identifier of the replay. -/
structure Delivery.Alike (replayId₁ replayId₂ : UUID) (d₁ d₂ : Delivery) : Prop where
  row : d₂ = { d₁ with replayId := d₂.replayId }
  replay : SameReplay replayId₁ replayId₂ d₁.replayId d₂.replayId

/-- The same result of a retry, up to the identifier of the replay. -/
structure RetryResult.Alike (replayId₁ replayId₂ : UUID) (r₁ r₂ : RetryResult) : Prop where
  result : r₂ = { r₁ with replayId := r₂.replayId }
  replay : SameReplay replayId₁ replayId₂ r₁.replayId r₂.replayId

/-- The same answer to a retry, up to the identifier of the replay. -/
structure RetryNotificationResponse.Alike (replayId₁ replayId₂ : UUID)
    (r₁ r₂ : EndpointResponse RetryNotificationResponse) : Prop where
  statusCode : r₁.statusCode = r₂.statusCode
  body : r₂.body = { r₁.body with replayId := r₂.body.replayId }
  replay : SameReplay replayId₁ replayId₂ r₁.body.replayId r₂.body.replayId

/-- The user's deliveries are the same, up to the identifiers of the replays. -/
def World.AlikeFor (userId replayId₁ replayId₂ : UUID) (w₁ w₂ : World) : Prop :=
  (∀ d₁ ∈ w₁.deliveries.committed, d₁.userId = userId →
    ∃ d₂ ∈ w₂.deliveries.committed, d₁.Alike replayId₁ replayId₂ d₂) ∧
  ∀ d₂ ∈ w₂.deliveries.committed, d₂.userId = userId →
    ∃ d₁ ∈ w₁.deliveries.committed, d₁.Alike replayId₁ replayId₂ d₂

/-- Two calls end in the same way: with results that are related, or with one exception. -/
def SameOutcome {ε α : Type} (S : α → α → Prop) : Except ε α → Except ε α → Prop
  | .ok a₁, .ok a₂ => S a₁ a₂
  | .error e₁, .error e₂ => e₁ = e₂
  | _, _ => False

/-! ### What the queries find -/

/-- A row is found in both lists, if those that meet the predicate are in both. -/
theorem find?_eq_of_mem_iff {α : Type} {P : α → Bool} {l₁ l₂ : List α}
    (h_unique : ∀ a ∈ l₁, ∀ b ∈ l₁, P a = true → P b = true → a = b)
    (h_mem : ∀ a, P a = true → (a ∈ l₁ ↔ a ∈ l₂)) : l₁.find? P = l₂.find? P := by
  cases h₂ : l₂.find? P with
  | none =>
    rw [List.find?_eq_none] at h₂ ⊢
    exact fun a h_a h_P => h₂ a ((h_mem a h_P).mp h_a) h_P
  | some b =>
    have h_b : b ∈ l₁ := (h_mem b (List.find?_some h₂)).mpr (List.mem_of_find?_eq_some h₂)
    cases h₁ : l₁.find? P with
    | none => exact absurd (List.find?_some h₂) (List.find?_eq_none.mp h₁ b h_b)
    | some a =>
      exact congrArg some (h_unique a (List.mem_of_find?_eq_some h₁) b h_b (List.find?_some h₁)
        (List.find?_some h₂))

theorem Delivery.userId_of_listedFor {d : Delivery} {userId : UUID}
    {status : WebNotificationStatus} (h : d.listedFor userId status = true) :
    d.userId = userId := by
  simp only [Delivery.listedFor, Bool.and_eq_true, decide_eq_true_eq] at h
  exact h.1.1.1

section Queries

variable {w₁ w₂ : World} {userId : UUID} (h_agree : w₁.AgreeFor userId w₂)
  (h_keys₁ : w₁.Keyed) (h_keys₂ : w₂.Keyed)

include h_agree h_keys₁

theorem World.AgreeFor.visibleWebDelivery (deliveryId : UUID) :
    getVisibleWebDeliveryForUser w₁.deliveries.committed deliveryId userId =
      getVisibleWebDeliveryForUser w₂.deliveries.committed deliveryId userId := by
  refine find?_eq_of_mem_iff (fun a h_a b h_b h_P h_P' => ?_) fun a h_P => ?_
  · have h_id := (of_decide_eq_true h_P).1.trans (of_decide_eq_true h_P').1.symm
    exact List.inj_on_of_nodup_map h_keys₁.deliveries h_a h_b h_id
  · exact h_agree.deliveries a (of_decide_eq_true h_P).2.1

theorem World.AgreeFor.notification {d : Delivery} (hd : d ∈ w₁.deliveries.committed)
    (h_user : d.userId = userId) :
    getNotification w₁.notifications.committed d.notificationId =
      getNotification w₂.notifications.committed d.notificationId := by
  refine find?_eq_of_mem_iff (fun a h_a b h_b h_P h_P' => ?_) fun a h_P => ?_
  · have h_id := (of_decide_eq_true h_P).trans (of_decide_eq_true h_P').symm
    exact List.inj_on_of_nodup_map h_keys₁.notifications h_a h_b h_id
  · exact h_agree.notifications d hd h_user a (of_decide_eq_true h_P)

include h_keys₂

theorem World.AgreeFor.siblings {web : Delivery} (h_user : web.userId = userId) :
    listUserRetryableSiblingDeliveries w₁.deliveries.committed web =
      listUserRetryableSiblingDeliveries w₂.deliveries.committed web := by
  have h_total : Std.Total fun a b : Delivery => a.id ≤ b.id := ⟨fun a b => le_total a.id b.id⟩
  have h_trans : IsTrans Delivery fun a b => a.id ≤ b.id := ⟨fun _ _ _ h h' => h.trans h'⟩
  -- both lists are sorted by the identifier, which is a row's own
  refine Keyset.insertionSort_eq_of_mem_iff (h_keys₁.deliveries.of_map.filter _)
    (h_keys₂.deliveries.of_map.filter _) (fun d => ?_) fun a h_a b h_b h_ab h_ba => ?_
  · rw [List.mem_filter, List.mem_filter, decide_eq_true_eq]
    refine and_congr_left fun h_sibling => ?_
    exact h_agree.deliveries d (h_sibling.2.2.1.trans h_user)
  · exact List.inj_on_of_nodup_map h_keys₁.deliveries (List.mem_filter.mp h_a).1
      (List.mem_filter.mp h_b).1 (le_antisymm h_ab h_ba)

/-- The list of the user, from any place on. -/
theorem World.AgreeFor.webNotifications (status : WebNotificationStatus) (limit : ℕ)
    (after : Option (Instant × UUID)) :
    listWebNotificationsForUser w₁.deliveries.committed w₁.notifications.committed userId status
        limit after =
      listWebNotificationsForUser w₂.deliveries.committed w₂.notifications.committed userId status
        limit after := by
  -- the page is a function of the listing, and two listings with the same rows are equal
  have h_listing : Keyset.listing VisibleWebDelivery.key (visibleWebNotifications
      w₁.deliveries.committed w₁.notifications.committed userId status) (after.map toLex) =
      Keyset.listing VisibleWebDelivery.key (visibleWebNotifications w₂.deliveries.committed
        w₂.notifications.committed userId status) (after.map toLex) := by
    refine Keyset.listing_congr (nodup_keys h_keys₁.deliveries h_keys₁.notifications)
      (nodup_keys h_keys₂.deliveries h_keys₂.notifications) fun row => ?_
    rw [mem_visibleWebNotifications, mem_visibleWebNotifications]
    constructor
    · -- the delivery is the user's own, and so is the notification it belongs to
      rintro ⟨h_d, h_time, h_listed, h_n, h_id⟩
      have h_user := Delivery.userId_of_listedFor h_listed
      exact ⟨(h_agree.deliveries _ h_user).mp h_d, h_time, h_listed,
        (h_agree.notifications _ h_d h_user _ h_id).mp h_n, h_id⟩
    · rintro ⟨h_d, h_time, h_listed, h_n, h_id⟩
      have h_user := Delivery.userId_of_listedFor h_listed
      have h_d₁ := (h_agree.deliveries _ h_user).mpr h_d
      exact ⟨h_d₁, h_time, h_listed, (h_agree.notifications _ h_d₁ h_user _ h_id).mpr h_n, h_id⟩
  rw [listWebNotificationsForUser, listWebNotificationsForUser, listing_eq, listing_eq, h_listing]

end Queries

/-! ### The services in lockstep -/

section Services

variable {p : Pid} {w₁ w₂ : World} {userId : UUID} {reading : Datetime}
  {replayId₁ replayId₂ : UUID}

/-- The two runs end in the same way, and the user's deliveries are related by `T`. -/
def Isolated {ε α : Type} (S : α → α → Prop) (T : World → World → Prop)
    (r₁ : Except ε α) (w₁ : World) (r₂ : Except ε α) (w₂ : World) : Prop :=
  SameOutcome S r₁ r₂ ∧ T w₁ w₂

theorem World.Idle.visible_deliveries {w : World} (hw : w.Idle p) :
    w.deliveries.visible p = w.deliveries.committed := Table.visible_of_own_nil hw.deliveries

theorem World.Idle.visible_notifications {w : World} (hw : w.Idle p) :
    w.notifications.visible p = w.notifications.committed :=
  Table.visible_of_own_nil hw.notifications

theorem World.SameFor.alikeFor (h : w₁.SameFor userId w₂) :
    w₁.AlikeFor userId replayId₁ replayId₂ w₂ :=
  ⟨fun d hd h_user => ⟨d, (h d h_user).mp hd, rfl, .inl rfl⟩,
    fun d hd h_user => ⟨d, (h d h_user).mpr hd, rfl, .inl rfl⟩⟩

/-- An update that leaves the owner of a row and does not tell the worlds apart. -/
theorem World.SameFor.alike_of_map {w₁' w₂' : World} {f₁ f₂ : Delivery → Delivery}
    (h : w₁.SameFor userId w₂) (h₁ : w₁'.deliveries.committed = w₁.deliveries.committed.map f₁)
    (h₂ : w₂'.deliveries.committed = w₂.deliveries.committed.map f₂)
    (h_user₁ : ∀ d, (f₁ d).userId = d.userId) (h_user₂ : ∀ d, (f₂ d).userId = d.userId)
    (h_alike : ∀ d, (f₁ d).Alike replayId₁ replayId₂ (f₂ d)) :
    w₁'.AlikeFor userId replayId₁ replayId₂ w₂' := by
  rw [World.AlikeFor, h₁, h₂]
  constructor
  · intro d₁ hd₁ h_user
    obtain ⟨d, hd, rfl⟩ := List.mem_map.mp hd₁
    have h_mem := (h d ((h_user₁ d).symm.trans h_user)).mp hd
    exact ⟨f₂ d, List.mem_map_of_mem h_mem, h_alike d⟩
  · intro d₂ hd₂ h_user
    obtain ⟨d, hd, rfl⟩ := List.mem_map.mp hd₂
    have h_mem := (h d ((h_user₂ d).symm.trans h_user)).mpr hd
    exact ⟨f₁ d, List.mem_map_of_mem h_mem, h_alike d⟩

theorem World.SameFor.of_map {w₁' w₂' : World} {f : Delivery → Delivery}
    (h : w₁.SameFor userId w₂) (h₁ : w₁'.deliveries.committed = w₁.deliveries.committed.map f)
    (h₂ : w₂'.deliveries.committed = w₂.deliveries.committed.map f)
    (h_user : ∀ d, (f d).userId = d.userId) : w₁'.SameFor userId w₂' := by
  intro d hd
  rw [h₁, h₂, List.mem_map, List.mem_map]
  refine exists_congr fun d₀ => and_congr_left fun h_eq => h d₀ ?_
  calc d₀.userId = (f d₀).userId := (h_user d₀).symm
    _ = d.userId := congrArg Delivery.userId h_eq
    _ = userId := hd

/-- The update of a retry takes the same rows in the two worlds. -/
theorem World.SameFor.replayable (h : w₁.SameFor userId w₂) (h_keys₁ : w₁.Keyed)
    (h_keys₂ : w₂.Keyed) {eligible : List Delivery}
    (h_eligible : ∀ d ∈ eligible, d ∈ w₁.deliveries.committed ∧ d.userId = userId) :
    (markDeliveriesReplayRequested w₁.deliveries.committed (eligible.map Delivery.id) []).length =
      (markDeliveriesReplayRequested w₂.deliveries.committed (eligible.map Delivery.id)
        []).length := by
  rw [markDeliveriesReplayRequested, markDeliveriesReplayRequested, List.length_map,
    List.length_map]
  refine ((List.perm_ext_iff_of_nodup (h_keys₁.deliveries.of_map.filter _)
    (h_keys₂.deliveries.of_map.filter _)).mpr fun d => ?_).length_eq
  rw [List.mem_filter, List.mem_filter]
  refine and_congr_left fun h_replayable => ?_
  -- a row that the update takes is one of the listed rows, which are in both worlds
  obtain ⟨e, he, h_id⟩ := List.mem_map.mp (Delivery.replayable_iff.mp h_replayable).1
  obtain ⟨he₁, h_user⟩ := h_eligible e he
  have he₂ := (h e h_user).mp he₁
  constructor
  · intro hd
    exact List.inj_on_of_nodup_map h_keys₁.deliveries he₁ hd h_id ▸ he₂
  · intro hd
    exact List.inj_on_of_nodup_map h_keys₂.deliveries he₂ hd h_id ▸ he₁

section Replayed

variable {deliveryIds : List UUID} {requestedAt : Instant}

theorem replayed_userId (replayId : UUID) (d : Delivery) :
    (if d.replayable deliveryIds [] then d.requestReplay replayId requestedAt else d).userId =
      d.userId := by
  by_cases h : d.replayable deliveryIds []
  · rw [if_pos h]
    rfl
  · rw [if_neg h]

theorem replayed_alike (d : Delivery) :
    (if d.replayable deliveryIds [] then d.requestReplay replayId₁ requestedAt else d).Alike
      replayId₁ replayId₂
      (if d.replayable deliveryIds [] then d.requestReplay replayId₂ requestedAt else d) := by
  by_cases h : d.replayable deliveryIds []
  · rw [if_pos h, if_pos h]
    exact ⟨rfl, .inr ⟨rfl, rfl⟩⟩
  · rw [if_neg h, if_neg h]
    exact ⟨rfl, .inl rfl⟩

end Replayed

theorem eq_nil_iff_of_length_eq {α : Type} {l₁ l₂ : List α} (h : l₁.length = l₂.length) :
    l₁ = [] ↔ l₂ = [] := by
  rw [← List.length_eq_zero_iff, ← List.length_eq_zero_iff, h]

theorem ends₂_recordRetry (h : w₁.SameFor userId w₂) (h_keys₁ : w₁.Keyed) (h_keys₂ : w₂.Keyed)
    {eligible : List Delivery}
    (h_eligible : ∀ d ∈ eligible, d ∈ w₁.deliveries.committed ∧ d.userId = userId)
    (requester : RetryService.Requester) (notificationId : UUID) (requestedAt : Instant) :
    Prog.Ends₂ p (Choice.Supplies reading replayId₁) (Choice.Supplies reading replayId₂)
      (Isolated (RetryResult.Alike replayId₁ replayId₂)
        (World.AlikeFor userId replayId₁ replayId₂))
      (RetryService.recordRetry requester notificationId eligible requestedAt)
      (RetryService.recordRetry requester notificationId eligible requestedAt) w₁ w₂ := by
  -- the one step is `commit_retry`; of all choices it takes only `retry`
  refine Prog.Ends₂.bind_raising
    (Prog.Ends₂.act fun i₁ i₂ r₁ r₂ w₁' w₂' h_C₁ h_C₂ hf₁ hf₂ => Prog.Ends₂.ret ?_)
  cases i₁ with
  | retry skipped₁ _ eventId₁ invocationId₁ =>
    cases i₂ with
    | retry skipped₂ _ eventId₂ invocationId₂ =>
      obtain ⟨rfl, rfl⟩ := h_C₁
      obtain ⟨rfl, rfl⟩ := h_C₂
      -- as many deliveries are replayable in one database as in the other
      have h_length := h.replayable h_keys₁ h_keys₂ h_eligible
      dsimp only at hf₁ hf₂
      split at hf₁
      next =>
        -- each of the two commits has taken place
        split at hf₂
        next =>
          obtain ⟨rfl, rfl⟩ := Prod.mk.inj (Option.some.inj hf₁)
          obtain ⟨rfl, rfl⟩ := Prod.mk.inj (Option.some.inj hf₂)
          refine Prog.Ends₂.ret ⟨?_, h.alike_of_map rfl rfl (replayed_userId _) (replayed_userId _)
            replayed_alike⟩
          have h_none := eq_nil_iff_of_length_eq h_length
          by_cases h_empty : markDeliveriesReplayRequested w₁.deliveries.committed
              (eligible.map Delivery.id) [] = []
          · -- nothing to replay: no identifier is in the answer
            have h_empty₂ := h_none.mp h_empty
            simp only [h_empty, h_empty₂]
            exact ⟨rfl, .inl rfl⟩
          · -- the answers differ in the identifier of the replay, which is fresh in each run
            have h_some₂ := mt h_none.mpr h_empty
            simp only [if_neg h_empty, if_neg h_some₂, h_length]
            exact ⟨rfl, .inr ⟨rfl, rfl⟩⟩
        next => exact absurd hf₂ (by simp)
      next => exact absurd hf₁ (by simp)
    | _ => exact absurd hf₂ (by simp)
  | _ => exact absurd hf₁ (by simp)

variable (h_agree : w₁.AgreeFor userId w₂) (h_keys₁ : w₁.Keyed) (h_keys₂ : w₂.Keyed)
  (h_idle₁ : w₁.Idle p) (h_idle₂ : w₂.Idle p)

include h_agree h_keys₁ h_keys₂ h_idle₁ h_idle₂

theorem ends₂_listForUser {C₁ C₂ : Choice → Prop} (status : WebNotificationStatus) (limit : ℕ)
    (after : Option (Instant × UUID)) :
    Prog.Ends₂ p C₁ C₂ (Isolated Eq (World.SameFor userId))
      (WebNotificationService.listForUser userId status limit after)
      (WebNotificationService.listForUser userId status limit after) w₁ w₂ := by
  refine ends₂_unitOfWork (fun _ _ _ _ hr => hr) (fun _ _ _ _ hr => hr)
    (Prog.Ends₂.act fun i₁ i₂ r₁ r₂ w₁' w₂' _ _ hf₁ hf₂ => Prog.Ends₂.ret ?_)
  obtain ⟨rfl, rfl⟩ := Prod.mk.inj (Option.some.inj hf₁)
  obtain ⟨rfl, rfl⟩ := Prod.mk.inj (Option.some.inj hf₂)
  refine ⟨?_, h_agree.deliveries⟩
  rw [h_idle₁.visible_deliveries, h_idle₁.visible_notifications, h_idle₂.visible_deliveries,
    h_idle₂.visible_notifications, h_agree.webNotifications h_keys₁ h_keys₂]
  cases listWebNotificationsForUser w₂.deliveries.committed w₂.notifications.committed userId
    status limit after with
  | ok rows => rfl
  | error e => rfl

omit h_keys₂ in
theorem ends₂_markRead (webNotificationId : UUID) :
    Prog.Ends₂ p (Choice.Supplies reading replayId₁) (Choice.Supplies reading replayId₂)
      (Isolated Eq (World.SameFor userId))
      (WebNotificationService.markRead userId webNotificationId)
      (WebNotificationService.markRead userId webNotificationId) w₁ w₂ := by
  have h_same : (w₁.record (.clockRead p reading)).SameFor userId
      (w₂.record (.clockRead p reading)) := h_agree.deliveries
  refine ends₂_awareUtcNow (fun _ h => h) (fun _ h => h) ?_ fun e => ⟨rfl, h_same⟩
  refine ends₂_unitOfWork (fun _ _ _ _ hr => hr) (fun _ _ _ _ hr => hr) (ends₂_query ?_)
  -- nothing of the transaction is pending, so it sees what is committed
  have h_visible₁ : (w₁.record (.clockRead p reading)).deliveries.visible p =
      w₁.deliveries.committed := h_idle₁.visible_deliveries
  have h_visible₂ : (w₂.record (.clockRead p reading)).deliveries.visible p =
      w₂.deliveries.committed := h_idle₂.visible_deliveries
  rw [h_visible₁, h_visible₂, ← h_agree.visibleWebDelivery h_keys₁]
  cases getVisibleWebDeliveryForUser w₁.deliveries.committed webNotificationId userId with
  | none => exact Prog.Ends₂.ret ⟨rfl, h_same⟩
  | some web =>
    dsimp only
    cases web.readAt with
    | some earlier => exact Prog.Ends₂.ret ⟨rfl, h_same⟩
    | none =>
      -- the time of reading is written to a delivery the user owns, in both databases
      refine Prog.Ends₂.bind_raising
        (Prog.Ends₂.act fun i₁ i₂ r₁ r₂ w₁' w₂' _ _ hf₁ hf₂ => Prog.Ends₂.ret ?_)
      obtain ⟨rfl, rfl⟩ := Prod.mk.inj (Option.some.inj hf₁)
      obtain ⟨rfl, rfl⟩ := Prod.mk.inj (Option.some.inj hf₂)
      refine Prog.Ends₂.ret ⟨rfl, h_agree.deliveries.of_map rfl rfl fun d => ?_⟩
      split
      · rfl
      · rfl

theorem ends₂_retryUserNotification (webNotificationId : UUID) :
    Prog.Ends₂ p (Choice.Supplies reading replayId₁) (Choice.Supplies reading replayId₂)
      (Isolated (RetryResult.Alike replayId₁ replayId₂)
        (World.AlikeFor userId replayId₁ replayId₂))
      (RetryService.retryUserNotification webNotificationId userId)
      (RetryService.retryUserNotification webNotificationId userId) w₁ w₂ := by
  have h_same : (w₁.record (.clockRead p reading)).SameFor userId
      (w₂.record (.clockRead p reading)) := h_agree.deliveries
  refine ends₂_awareUtcNow (fun _ h => h) (fun _ h => h) ?_ fun e => ⟨rfl, h_same.alikeFor⟩
  refine ends₂_unitOfWork (fun _ _ _ _ hr => hr) (fun _ _ _ _ hr => hr) (ends₂_query ?_)
  -- nothing of the transaction is pending, so it sees what is committed
  have h_visible₁ : (w₁.record (.clockRead p reading)).deliveries.visible p =
      w₁.deliveries.committed := h_idle₁.visible_deliveries
  have h_visible₂ : (w₂.record (.clockRead p reading)).deliveries.visible p =
      w₂.deliveries.committed := h_idle₂.visible_deliveries
  rw [h_visible₁, h_visible₂, ← h_agree.visibleWebDelivery h_keys₁]
  cases h_find : getVisibleWebDeliveryForUser w₁.deliveries.committed webNotificationId userId with
  | none => exact Prog.Ends₂.ret ⟨rfl, h_same.alikeFor⟩
  | some web =>
    obtain ⟨h_web, -, h_user, -⟩ := getVisibleWebDeliveryForUser_some h_find
    refine ends₂_query ?_
    have h_found : getNotification ((w₁.record (.clockRead p reading)).notifications.visible p)
        web.notificationId = getNotification
          ((w₂.record (.clockRead p reading)).notifications.visible p) web.notificationId := by
      calc _ = getNotification w₁.notifications.committed web.notificationId :=
            congrArg (getNotification · _) h_idle₁.visible_notifications
        _ = getNotification w₂.notifications.committed web.notificationId :=
            h_agree.notification h_keys₁ h_web h_user
        _ = _ := congrArg (getNotification · _) h_idle₂.visible_notifications.symm
    rw [h_found]
    cases getNotification ((w₂.record (.clockRead p reading)).notifications.visible p)
      web.notificationId with
    | none => exact Prog.Ends₂.ret ⟨rfl, h_same.alikeFor⟩
    | some n =>
      refine ends₂_query ?_
      rw [h_visible₁, h_visible₂, ← h_agree.siblings h_keys₁ h_keys₂ h_user]
      -- the siblings are deliveries of the same user
      refine ends₂_recordRetry h_same (h_keys₁.record _) (h_keys₂.record _) (fun d hd => ?_) _ _ _
      obtain ⟨h_mem, -, -, h_owner, -⟩ := mem_listUserRetryableSiblingDeliveries.mp hd
      exact ⟨h_mem, h_owner.trans h_user⟩

end Services

/-! ### The endpoints -/

section Endpoints

variable {p : Pid} {s s₁ s₂ : Server} {principal : AuthenticatedPrincipal} {userId : UUID}

/-- Both runs check the principal in the same way. -/
theorem ends₂_checkUser {β : Type} {C₁ C₂ : Choice → Prop}
    {Q : Except EndpointError β → Server → Except EndpointError β → Server → Prop}
    {g : UUID → ApiProgram β} (h_subject : UUID.parse principal.subject = some userId)
    (h : Prog.Ends₂ p C₁ C₂ Q (g userId) (g userId) s₁ s₂)
    (h_refused : ∀ e, Q (.error (.http e)) s₁ (.error (.http e)) s₂) :
    Prog.Ends₂ p C₁ C₂ Q (do
      check (principal.requireType "user")
      check (principal.requireScope "notifications:read")
      let userId ← check (UserRoutes.userIdFromPrincipal principal)
      g userId : ApiProgram β) (do
      check (principal.requireType "user")
      check (principal.requireScope "notifications:read")
      let userId ← check (UserRoutes.userIdFromPrincipal principal)
      g userId : ApiProgram β) s₁ s₂ := by
  -- a refusal is the same in both runs; otherwise both go on with the user of the subject
  refine ends₂_check (fun _ _ => ?_) h_refused
  refine ends₂_check (fun _ _ => ?_) h_refused
  refine ends₂_check (fun userId' h_parsed => ?_) h_refused
  have h_parsed := userIdFromPrincipal_ok h_parsed
  obtain rfl := Option.some.inj (h_subject.symm.trans h_parsed)
  exact h

/-- What the services return alike, the endpoint answers alike. -/
theorem ends₂_callService_isolated {α β : Type} {C₁ C₂ : Choice → Prop} {S : α → α → Prop}
    {S' : β → β → Prop} {T : World → World → Prop} {translate : PyError → EndpointError}
    {service : Program α} {response : α → β}
    (h_response : ∀ a b, S a b → S' (response a) (response b))
    (h : Prog.Ends₂ p C₁ C₂ (Isolated S T) service service s₁.world s₂.world) :
    Prog.Ends₂ p C₁ C₂
      (fun r₁ s₁' r₂ s₂' => Isolated S' T r₁ s₁'.world r₂ s₂'.world)
      (do
        let result ← callService Server.worldPart translate service
        return response result : ApiProgram β)
      (do
        let result ← callService Server.worldPart translate service
        return response result : ApiProgram β) s₁ s₂ := by
  refine ends₂_callService (h.mono fun r₁ w₁' r₂ w₂' hr => ?_)
  obtain ⟨h_outcome, h_T⟩ := hr
  -- two runs with alike outcomes end both with a response or both with the same error
  cases r₁ with
  | ok a₁ =>
    cases r₂ with
    | ok a₂ => exact Prog.Ends₂.ret ⟨h_response a₁ a₂ h_outcome, h_T⟩
    | error e₂ => exact h_outcome.elim
  | error e₁ =>
    cases r₂ with
    | ok a₂ => exact h_outcome.elim
    | error e₂ => exact ⟨congrArg translate h_outcome, h_T⟩

/-- The user has no delivery with the identifier: it is another user's, or unknown. -/
def World.Foreign (w : World) (userId deliveryId : UUID) : Prop :=
  ∀ d ∈ w.deliveries.committed, d.id = deliveryId → d.userId ≠ userId

theorem World.Foreign.not_visible {w : World} {deliveryId : UUID}
    (h : w.Foreign userId deliveryId) :
    getVisibleWebDeliveryForUser w.deliveries.committed deliveryId userId = none := by
  refine List.find?_eq_none.mpr fun d hd h_P => ?_
  have h_found := of_decide_eq_true h_P
  exact h d hd h_found.1 h_found.2.1

/-- What a user gets who asks for something that is not the user's. -/
def NotFound {ε α : Type} (e : ε) (w : World) (r : Except ε α) (w' : World) : Prop :=
  r = .error e ∧ w.SameTables w'

/-- The services refuse with a `ValueError`, and have changed nothing. -/
def RefusedValue {α : Type} (w : World) (r : Except PyError α) (w' : World) : Prop :=
  ∃ message, NotFound (.valueError message) w r w'

theorem ends_unitOfWork_refused {α : Type} {w w₁ : World} {body : Program α} (hw : w.Idle p)
    (h : Prog.Ends p (RefusedValue w) body w₁) :
    Prog.Ends p (RefusedValue w) (unitOfWork body) w₁ := by
  refine ends_unitOfWork (fun e w' h_error => ?_) h
  obtain ⟨message, h_e, h_same⟩ := h_error
  exact ⟨message, h_e, h_same.rollback hw⟩

section Foreign

variable {w : World} {deliveryId : UUID} (hw : w.Idle p) (h_foreign : w.Foreign userId deliveryId)

include hw h_foreign

theorem ends_markRead_foreign :
    Prog.Ends p (RefusedValue w) (WebNotificationService.markRead userId deliveryId) w := by
  refine ends_awareUtcNow (fun value => ?_) fun value =>
    ⟨_, rfl, (World.SameTables.refl w).record _⟩
  refine ends_unitOfWork_refused hw (ends_query ?_)
  have h_visible : (w.record (.clockRead p value)).deliveries.visible p =
      w.deliveries.committed := hw.visible_deliveries
  rw [h_visible, h_foreign.not_visible]
  exact Prog.Ends.ret ⟨_, rfl, (World.SameTables.refl w).record _⟩

theorem ends_retryUserNotification_foreign :
    Prog.Ends p (RefusedValue w) (RetryService.retryUserNotification deliveryId userId) w := by
  refine ends_awareUtcNow (fun value => ?_) fun value =>
    ⟨_, rfl, (World.SameTables.refl w).record _⟩
  refine ends_unitOfWork_refused hw (ends_query ?_)
  have h_visible : (w.record (.clockRead p value)).deliveries.visible p =
      w.deliveries.committed := hw.visible_deliveries
  rw [h_visible, h_foreign.not_visible]
  exact Prog.Ends.ret ⟨_, rfl, (World.SameTables.refl w).record _⟩

end Foreign

/-- A service that refuses with a `ValueError` is hidden behind one answer. -/
theorem ends_callService_hidden {α β : Type} {service : Program α} {response : α → β}
    (h : Prog.Ends p (RefusedValue s.world) service s.world) :
    Prog.Ends p (fun r s' => NotFound (.http ⟨404, "web notification does not exist"⟩) s.world r
        s'.world) (do
      let result ← callService Server.worldPart UserRoutes.hidden service
      return response result : ApiProgram β) s := by
  refine ends_callService (h.mono fun r w' hr => ?_)
  obtain ⟨message, rfl, h_same⟩ := hr
  exact ⟨rfl, h_same⟩

/-- What the checks make of a call depends on the principal alone. -/
theorem exists_refusal (principal : AuthenticatedPrincipal) {userId : UUID} (s : Server)
    (h_subject : UUID.parse principal.subject = some userId) (found : EndpointError) :
    ∃ e, (principal.IsUser userId → e = found) ∧ ∀ (β : Type) (g : UUID → ApiProgram β),
      Prog.Ends p (fun r s' => NotFound found s.world r s'.world) (g userId) s →
      Prog.Ends p (fun r s' => NotFound e s.world r s'.world) (do
        check (principal.requireType "user")
        check (principal.requireScope "notifications:read")
        let userId ← check (UserRoutes.userIdFromPrincipal principal)
        g userId : ApiProgram β) s := by
  by_cases h_type : principal.tokenType = "user"
  · by_cases h_scope : "notifications:read" ∈ principal.scopes
    · -- the three checks pass, and the answer is that of the service
      refine ⟨found, fun _ => rfl, fun β g h => ?_⟩
      rw [UserRoutes.userIdFromPrincipal, h_subject, AuthenticatedPrincipal.requireType,
        if_pos h_type, AuthenticatedPrincipal.requireScope, if_pos h_scope]
      exact h
    · refine ⟨.http ⟨403, "required scope is missing"⟩,
        fun h_user => absurd h_user.scope h_scope, fun β g h => ?_⟩
      rw [AuthenticatedPrincipal.requireType, if_pos h_type, AuthenticatedPrincipal.requireScope,
        if_neg h_scope]
      exact Prog.Ends.ret ⟨rfl, .refl _⟩
  · refine ⟨.http ⟨403, "token type is not allowed"⟩,
      fun h_user => absurd h_user.type h_type, fun β g h => ?_⟩
    rw [AuthenticatedPrincipal.requireType, if_neg h_type]
    exact Prog.Ends.ret ⟨rfl, .refl _⟩

variable (hmacSha256 : List UInt8 → List UInt8 → List UInt8) (floatOf : List Char → PyFloat)
  (codec : WebNotificationCursorCodec)

/-- **A user is shown nothing of others.** Two states of the tables agree on the user's
deliveries and on the notifications that they refer to. Then a page of the list, the answer to a
read mark and the answer to a retry are the same in both, whatever is asked for, and the user's
deliveries are the same afterwards, all up to the identifier of the replay. A delivery of another
user is answered as one that does not exist. -/
theorem reads_isolated (h_agree : s₁.world.AgreeFor userId s₂.world) (h_keys₁ : s₁.world.Keyed)
    (h_keys₂ : s₂.world.Keyed) (h_idle₁ : s₁.world.Idle p) (h_idle₂ : s₂.world.Idle p)
    (h_subject : UUID.parse principal.subject = some userId) (reading : Datetime)
    (replayId₁ replayId₂ : UUID) :
    (∀ status limit cursor,
      Prog.Ends₂ p (Choice.Supplies reading replayId₁) (Choice.Supplies reading replayId₂)
        (fun r₁ s₁' r₂ s₂' => Isolated Eq (World.SameFor userId) r₁ s₁'.world r₂ s₂'.world)
        (UserRoutes.listNotifications hmacSha256 floatOf codec principal status limit cursor)
        (UserRoutes.listNotifications hmacSha256 floatOf codec principal status limit cursor)
        s₁ s₂) ∧
    (∀ webNotificationId,
      Prog.Ends₂ p (Choice.Supplies reading replayId₁) (Choice.Supplies reading replayId₂)
        (fun r₁ s₁' r₂ s₂' => Isolated Eq (World.SameFor userId) r₁ s₁'.world r₂ s₂'.world)
        (UserRoutes.markNotificationRead principal webNotificationId)
        (UserRoutes.markNotificationRead principal webNotificationId) s₁ s₂) ∧
    (∀ webNotificationId,
      Prog.Ends₂ p (Choice.Supplies reading replayId₁) (Choice.Supplies reading replayId₂)
        (fun r₁ s₁' r₂ s₂' => Isolated (RetryNotificationResponse.Alike replayId₁ replayId₂)
          (World.AlikeFor userId replayId₁ replayId₂) r₁ s₁'.world r₂ s₂'.world)
        (UserRoutes.retryNotificationAction principal webNotificationId)
        (UserRoutes.retryNotificationAction principal webNotificationId) s₁ s₂) ∧
    ∃ e : EndpointError,
      (principal.IsUser userId → e = .http ⟨404, "web notification does not exist"⟩) ∧
      ∀ webNotificationId, s₁.world.Foreign userId webNotificationId →
        Prog.Ends p (fun r s' => NotFound e s₁.world r s'.world)
          (UserRoutes.markNotificationRead principal webNotificationId) s₁ ∧
        Prog.Ends p (fun r s' => NotFound e s₁.world r s'.world)
          (UserRoutes.retryNotificationAction principal webNotificationId) s₁ := by
  refine ⟨fun status limit cursor => ?_, fun webNotificationId => ?_, fun webNotificationId => ?_,
    ?_⟩
  · -- `list_notifications`: one row more than the page is read
    refine ends₂_checkUser h_subject ?_ fun e => ⟨rfl, h_agree.deliveries⟩
    refine ends₂_answer (fun after _ => ?_) fun e => ⟨rfl, h_agree.deliveries⟩
    refine ends₂_callService_isolated (fun rows rows' h_rows => ?_)
      (ends₂_listForUser h_agree h_keys₁ h_keys₂ h_idle₁ h_idle₂ status (limit + 1) after)
    rw [h_rows]
  · -- `mark_notification_read`
    refine ends₂_checkUser h_subject ?_ fun e => ⟨rfl, h_agree.deliveries⟩
    refine ends₂_callService_isolated (fun result result' h_result => ?_)
      (ends₂_markRead h_agree h_keys₁ h_idle₁ h_idle₂ webNotificationId)
    rw [h_result]
  · -- `retry_notification_action`: the replay's identifier is the only difference
    refine ends₂_checkUser h_subject ?_ fun e => ⟨rfl, h_agree.deliveries.alikeFor⟩
    refine ends₂_callService_isolated (fun result result' h_result => ?_)
      (ends₂_retryUserNotification h_agree h_keys₁ h_keys₂ h_idle₁ h_idle₂ webNotificationId)
    obtain ⟨h_row, h_replay⟩ := h_result
    rw [h_row]
    exact ⟨rfl, rfl, h_replay⟩
  · -- for a foreign identifier both endpoints answer as if there was no such notification
    obtain ⟨e, h_e, h_refused⟩ := exists_refusal principal s₁ h_subject
      (.http ⟨404, "web notification does not exist"⟩)
    refine ⟨e, h_e, fun webNotificationId h_foreign => ⟨?_, ?_⟩⟩
    · exact h_refused _ _ (ends_callService_hidden (ends_markRead_foreign h_idle₁ h_foreign))
    · exact h_refused _ _ (ends_callService_hidden
        (ends_retryUserNotification_foreign h_idle₁ h_foreign))

end Endpoints

/-- The tables with a delivery of another user. -/
def World.withForeign (w : World) : World :=
  { w with deliveries := ⟨w.deliveries.committed ++ (w.deliveries.committed.take 1).map fun d =>
      { d with id := 77, userId := 2 }, w.deliveries.pending⟩ }

theorem World.agreeFor_withForeign (w : World) : w.AgreeFor 1 w.withForeign where
  deliveries d h_user := by
    rw [World.withForeign, List.mem_append]
    refine (or_iff_left fun h_other => ?_).symm
    obtain ⟨d', -, rfl⟩ := List.mem_map.mp h_other
    have h_ne : (2 : UUID) ≠ 1 := by decide
    exact h_ne h_user
  notifications _ _ _ _ _ := Iff.rfl

/-- The user asks for what has not been delivered, with and without the delivery of another. -/
theorem reads_isolated_retry :
    ∃ c r₁ s₁ r₂ s₂, readingDeployment.Run 0 (.ofUsers [1] (by decide)) failingSchedule c ∧
      Prog.exec (UserRoutes.retryNotificationAction firstPrincipal 22) 9
        [.time (.ofInstant 20), .go, .go, .go, .retry [] 41 42 43] ⟨c.world, .initial⟩ =
          some (.ok r₁, s₁) ∧
      Prog.exec (UserRoutes.retryNotificationAction firstPrincipal 22) 9
        [.time (.ofInstant 20), .go, .go, .go, .retry [] 51 52 53]
          ⟨c.world.withForeign, .initial⟩ = some (.ok r₂, s₂) ∧
      r₁ = ⟨202, ⟨some 41, .queued, 1⟩⟩ ∧ r₂ = ⟨202, ⟨some 51, .queued, 1⟩⟩ ∧
      RetryNotificationResponse.Alike 41 51 r₁ r₂ ∧ s₁.world.AlikeFor 1 41 51 s₂.world := by
  obtain ⟨c, h_run, h_c⟩ := readingDeployment.exists_run 0 (.ofUsers [1] (by decide))
    failingSchedule (fun c => decide (
      (c.world.notifications.own 9 = [] ∧ c.world.recipients.own 9 = [] ∧
        c.world.deliveries.own 9 = []) ∧
      ((c.world.deliveries.committed.map Delivery.id).Nodup ∧
        (c.world.notifications.committed.map Notification.id).Nodup ∧
        (c.world.withForeign.deliveries.committed.map Delivery.id).Nodup) ∧
      (Prog.exec (UserRoutes.retryNotificationAction firstPrincipal 22) 9
        [.time (.ofInstant 20), .go, .go, .go, .retry [] 41 42 43] ⟨c.world, .initial⟩).map
        (fun rs => decide (rs.1.toOption = some ⟨202, ⟨some 41, .queued, 1⟩⟩)) = some true ∧
      (Prog.exec (UserRoutes.retryNotificationAction firstPrincipal 22) 9
        [.time (.ofInstant 20), .go, .go, .go, .retry [] 51 52 53]
          ⟨c.world.withForeign, .initial⟩).map
        (fun rs => decide (rs.1.toOption = some ⟨202, ⟨some 51, .queued, 1⟩⟩)) = some true))
    (by decide +kernel)
  obtain ⟨⟨h_notifications, h_recipients, h_deliveries⟩, ⟨h_keys, h_keys', h_keys''⟩, h_exec₁,
    h_exec₂⟩ := of_decide_eq_true h_c
  obtain ⟨⟨r₁, s₁⟩, h_exec₁, h_result₁⟩ := Option.map_eq_some_iff.mp h_exec₁
  obtain ⟨⟨r₂, s₂⟩, h_exec₂, h_result₂⟩ := Option.map_eq_some_iff.mp h_exec₂
  -- both calls return
  have h_r₁ := of_decide_eq_true h_result₁
  have h_r₂ := of_decide_eq_true h_result₂
  cases r₁ with
  | error e => exact absurd h_r₁ (by simp [Except.toOption])
  | ok response₁ =>
    cases r₂ with
    | error e => exact absurd h_r₂ (by simp [Except.toOption])
    | ok response₂ =>
      obtain rfl := Option.some.inj h_r₁
      obtain rfl := Option.some.inj h_r₂
      -- the two states agree on what the user can see, and both are at rest
      have h_agree : (⟨c.world, .initial⟩ : Server).world.AgreeFor 1
          (⟨c.world.withForeign, .initial⟩ : Server).world := c.world.agreeFor_withForeign
      have h_idle : c.world.Idle 9 := ⟨h_notifications, h_recipients, h_deliveries⟩
      have h_idle' : c.world.withForeign.Idle 9 := ⟨h_notifications, h_recipients, h_deliveries⟩
      -- the calls are given the same readings, and different identifiers
      have h_supplies₁ : ∀ i ∈ [.time (.ofInstant 20), .go, .go, .go, .retry [] 41 42 43],
          Choice.Supplies (.ofInstant 20) 41 i := by
        simp [Choice.Supplies]
      have h_supplies₂ : ∀ i ∈ [.time (.ofInstant 20), .go, .go, .go, .retry [] 51 52 53],
          Choice.Supplies (.ofInstant 20) 51 i := by
        simp [Choice.Supplies]
      have h_subject : UUID.parse firstPrincipal.subject = some 1 := UUID.parse_str 1
      obtain ⟨-, -, h_retry, -⟩ := reads_isolated (fun _ _ => []) (fun _ => .nan) ⟨"secret"⟩
        h_agree ⟨h_keys, h_keys'⟩ ⟨h_keys'', h_keys'⟩ h_idle h_idle' h_subject (.ofInstant 20)
        41 51
      have h_isolated := h_retry 22 _ _ _ _ _ _ h_supplies₁ h_supplies₂ h_exec₁ h_exec₂
      exact ⟨c, _, s₁, _, s₂, h_run, h_exec₁, h_exec₂, rfl, rfl, h_isolated⟩

end NotificationBroker
