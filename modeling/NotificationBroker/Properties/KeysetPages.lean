import Mathlib.Data.Prod.Lex
import NotificationBroker.Api.Routers.Users
import NotificationBroker.Framework.Keyset
import NotificationBroker.Framework.Raising
import NotificationBroker.Properties.Cursors
import NotificationBroker.Properties.FanoutRows

/-!
# The list as keyset pages

The query of the list is a page of keyset pagination (`Keyset.page`) over the visible
deliveries, whose key is the delivery time and the identifier: `page_refines`. The cursor keeps
this key (`decode_encode`). In a world that a run reaches no two rows have one key, and the
keys are those of the deliveries in the list.
-/

namespace NotificationBroker

open Python
open ReadCommitted (Table)

/-! ### The query as a keyset page -/

/-- The place of a row in the list. -/
def VisibleWebDelivery.key (row : VisibleWebDelivery) : ℤ ×ₗ UUID :=
  toLex (row.deliveredAt, row.delivery.id)

/-- The place of a loaded row in the list. -/
def WebNotificationRow.key (row : WebNotificationRow) : ℤ ×ₗ UUID :=
  toLex (row.deliveredAt.val, row.id)

theorem insertionSort_congr {α : Type} {r s : α → α → Prop} [DecidableRel r] [DecidableRel s]
    (h : ∀ a b, r a b ↔ s a b) (l : List α) : l.insertionSort r = l.insertionSort s := by
  obtain rfl : r = s := funext fun a => funext fun b => propext (h a b)
  congr

theorem before_iff {a b : VisibleWebDelivery} : a.before b ↔ b.key ≤ a.key := by
  rw [VisibleWebDelivery.key, VisibleWebDelivery.key, Prod.Lex.toLex_le_toLex]
  rfl

theorem afterCursor_iff {row : VisibleWebDelivery} {after : Option (Instant × UUID)} :
    row.afterCursor after = true ↔ Keyset.Behind (after.map toLex) row.key := by
  cases after with
  | none => simp [VisibleWebDelivery.afterCursor, Keyset.Behind]
  | some last =>
    obtain ⟨deliveredAt, deliveryId⟩ := last
    simp [VisibleWebDelivery.afterCursor, Keyset.Behind, VisibleWebDelivery.key,
      Prod.Lex.toLex_lt_toLex]

/-- The query lists the rows behind the cursor. -/
theorem listing_eq (rows : List VisibleWebDelivery) (after : Option (Instant × UUID)) :
    (rows.filter fun row => row.afterCursor after).insertionSort VisibleWebDelivery.before =
      Keyset.listing VisibleWebDelivery.key rows (after.map toLex) := by
  rw [Keyset.listing, insertionSort_congr (fun _ _ => before_iff)]
  congr 1
  refine List.filter_congr fun row _ => ?_
  rw [Bool.eq_iff_iff, afterCursor_iff, decide_eq_true_eq]

/-- A row that is loaded keeps its place. -/
theorem load_key {row : VisibleWebDelivery} {loaded : WebNotificationRow}
    (h : row.load = .ok loaded) : loaded.key = row.key := by
  have h_time : ∀ {t : Instant} {time : UtcTime}, loadTime t = .ok time → time.val = t := by
    intro t time h_load
    unfold loadTime at h_load
    split at h_load
    · obtain rfl := Except.ok.inj h_load
      rfl
    · exact absurd h_load (by simp)
  unfold VisibleWebDelivery.load at h
  obtain ⟨readAt, -, h⟩ := Raising.bind_eq_ok.mp h
  obtain ⟨deliveredAt, h_delivered, h⟩ := Raising.bind_eq_ok.mp h
  obtain ⟨createdAt, -, h⟩ := Raising.bind_eq_ok.mp h
  obtain rfl := Except.ok.inj h
  rw [WebNotificationRow.key, VisibleWebDelivery.key, h_time h_delivered]

theorem keys_of_mapM {found : List VisibleWebDelivery} {rows : List WebNotificationRow}
    (h : found.mapM VisibleWebDelivery.load = .ok rows) :
    rows.map WebNotificationRow.key = found.map VisibleWebDelivery.key := by
  have h_map := map_of_mapM_ok h
  clear h
  induction found generalizing rows with
  | nil =>
    obtain rfl := List.map_eq_nil_iff.mp h_map.symm
    rfl
  | cons row found ih =>
    cases rows with
    | nil => exact absurd h_map (by simp)
    | cons loaded rows =>
      rw [List.map_cons, List.map_cons, List.cons.injEq] at h_map
      rw [List.map_cons, List.map_cons, load_key h_map.1, ih h_map.2]

/-- The cursor is at the place, or there is none of either. -/
def CursorAt (hmacSha256 : List UInt8 → List UInt8 → List UInt8) (floatOf : List Char → PyFloat)
    (codec : WebNotificationCursorCodec) (cursor : Option String) (after : Option (ℤ ×ₗ UUID)) :
    Prop :=
  UserRoutes.decodeCursor hmacSha256 floatOf codec cursor = .ok (after.map ofLex)

section Pages

variable {hmacSha256 : List UInt8 → List UInt8 → List UInt8} {floatOf : List Char → PyFloat}
  {codec : WebNotificationCursorCodec}

/-- The cursor of a row is at the row's place. -/
theorem cursorAt_cursorOfRow (row : WebNotificationRow) :
    CursorAt hmacSha256 floatOf codec
      (some (codec.encode hmacSha256 (UserRoutes.cursorOfRow row))) (some row.key) := by
  rw [CursorAt, UserRoutes.decodeCursor, WebNotificationCursorCodec.decode_encode]
  simp only [UserRoutes.cursorOfRow, UtcTime.datetime, Datetime.instant_ofInstant]
  rfl

/-- A page of an endpoint shows a keyset page. -/
structure Shows (shown : WebNotificationPage) (page : Keyset.Page VisibleWebDelivery (ℤ ×ₗ UUID)) :
    Prop where
  rows : shown.rows.map WebNotificationRow.key = page.rows.map VisibleWebDelivery.key
  ends : shown.nextCursor = none ↔ page.next = none

/-- **The endpoint's page is a keyset page** of the visible deliveries, and its cursor is the
next one's. -/
theorem page_refines {deliveries : List Delivery} {notifications : List Notification}
    {userId : UUID} {status : WebNotificationStatus} {limit : ℕ} {cursor : Option String}
    {after : Option (ℤ ×ₗ UUID)} {shown : WebNotificationPage}
    (h_cursor : CursorAt hmacSha256 floatOf codec cursor after)
    (h : UserRoutes.page hmacSha256 floatOf codec deliveries notifications userId status limit
      cursor = .ok shown) :
    Shows shown (Keyset.page VisibleWebDelivery.key limit
        (visibleWebNotifications deliveries notifications userId status) after) ∧
      ∀ next, shown.nextCursor = some next → ∃ last,
        (Keyset.page VisibleWebDelivery.key limit
          (visibleWebNotifications deliveries notifications userId status) after).next =
            some last ∧ CursorAt hmacSha256 floatOf codec (some next) (some last) := by
  obtain ⟨after', h_after, h⟩ := Raising.bind_eq_ok.mp h
  obtain rfl := Except.ok.inj (h_after.symm.trans h_cursor)
  have h_place : (after.map ofLex).map toLex = after := by
    cases after <;> rfl
  split at h
  next rows h_rows =>
    obtain rfl := Except.ok.inj h
    rw [listWebNotificationsForUser, listing_eq, h_place] at h_rows
    -- the rows that are loaded are at the places of the rows that are found
    have h_keys := keys_of_mapM h_rows
    have h_length : rows.length = ((Keyset.listing VisibleWebDelivery.key
        (visibleWebNotifications deliveries notifications userId status) after).take
          (limit + 1)).length := by
      simpa using congrArg List.length h_keys
    generalize h_found : (Keyset.listing VisibleWebDelivery.key
      (visibleWebNotifications deliveries notifications userId status) after).take (limit + 1) =
        found at h_keys h_length
    have h_page : Keyset.page VisibleWebDelivery.key limit
        (visibleWebNotifications deliveries notifications userId status) after =
          ⟨found.take limit, if limit < found.length then
            (found.take limit).getLast?.map VisibleWebDelivery.key else none⟩ := by
      rw [← h_found]
      rfl
    have h_last : (rows.take limit).getLast?.map WebNotificationRow.key =
        (found.take limit).getLast?.map VisibleWebDelivery.key := by
      rw [← List.getLast?_map, ← List.getLast?_map, List.map_take, List.map_take, h_keys]
    rw [h_page]
    simp only [UserRoutes.pageOfRows, UserRoutes.nextCursor, h_length]
    rw [← h_last]
    by_cases h_more : limit < found.length
    · simp only [h_more, decide_true, if_true]
      cases (rows.take limit).getLast? with
      | none =>
        refine ⟨⟨?_, by simp⟩, fun next h_next => absurd h_next (by simp)⟩
        rw [List.map_take, List.map_take, h_keys]
      | some row =>
        refine ⟨⟨?_, by simp⟩, fun next h_next => ⟨row.key, rfl, ?_⟩⟩
        · rw [List.map_take, List.map_take, h_keys]
        · obtain rfl := Option.some.inj h_next
          exact cursorAt_cursorOfRow row
    · simp only [h_more, decide_false, if_false]
      refine ⟨⟨?_, by simp⟩, fun next h_next => absurd h_next (by simp)⟩
      rw [List.map_take, List.map_take, h_keys]
  next => exact absurd h (by simp)

end Pages

/-! ### The rows of one snapshot -/

/-- A delivery that is in the user's list under the filter. -/
def World.Lists (w : World) (userId : UUID) (status : WebNotificationStatus) (id : UUID) : Prop :=
  ∃ r ∈ w.deliveries.committed, r.id = id ∧ r.deliveredAt.isSome ∧ r.listedFor userId status

/-- The rows that a query reads in a world. -/
def World.snapshot (w : World) (userId : UUID) (status : WebNotificationStatus) :
    List VisibleWebDelivery :=
  visibleWebNotifications w.deliveries.committed w.notifications.committed userId status

section Snapshots

variable {userId : UUID} {status : WebNotificationStatus} {w : World}

theorem mem_visibleWebNotifications {deliveries : List Delivery}
    {notifications : List Notification} {row : VisibleWebDelivery} :
    row ∈ visibleWebNotifications deliveries notifications userId status ↔
      row.delivery ∈ deliveries ∧ row.delivery.deliveredAt = some row.deliveredAt ∧
        row.delivery.listedFor userId status = true ∧ row.notification ∈ notifications ∧
          row.notification.id = row.delivery.notificationId := by
  rw [visibleWebNotifications, List.mem_flatMap]
  constructor
  · rintro ⟨d, h_d, h⟩
    split at h
    -- a delivery without a time of delivery is in no row
    next => exact absurd h List.not_mem_nil
    next deliveredAt h_time =>
      split at h
      next h_listed =>
        obtain ⟨n, h_n, rfl⟩ := List.mem_map.mp h
        obtain ⟨h_n, h_id⟩ := List.mem_filter.mp h_n
        exact ⟨h_d, h_time, h_listed, h_n, of_decide_eq_true h_id⟩
      next => exact absurd h List.not_mem_nil
  · rintro ⟨h_d, h_time, h_listed, h_n, h_id⟩
    refine ⟨row.delivery, h_d, ?_⟩
    rw [h_time]
    dsimp only
    rw [if_pos h_listed]
    exact List.mem_map.mpr ⟨row.notification, List.mem_filter.mpr ⟨h_n, decide_eq_true h_id⟩, rfl⟩

/-- An identifier finds one notification at most. -/
theorem length_filter_id {notifications : List Notification}
    (h : (notifications.map Notification.id).Nodup) (id : UUID) :
    (notifications.filter fun n => n.id = id).length ≤ 1 := by
  have h_nodup := h.sublist ((List.filter_sublist (p := fun n => decide (n.id = id))).map
    Notification.id)
  have h_replicate : (notifications.filter fun n => n.id = id).map Notification.id =
      List.replicate (notifications.filter fun n => n.id = id).length id := by
    refine List.eq_replicate_iff.mpr ⟨List.length_map _, fun x h_x => ?_⟩
    obtain ⟨n, h_n, rfl⟩ := List.mem_map.mp h_x
    exact of_decide_eq_true (List.mem_filter.mp h_n).2
  rw [h_replicate] at h_nodup
  exact List.nodup_replicate.mp h_nodup

/-- A delivery is joined with one notification at most. -/
theorem snapshot_ids_sublist {notifications : List Notification}
    (h_notifications : (notifications.map Notification.id).Nodup) (deliveries : List Delivery) :
    ((visibleWebNotifications deliveries notifications userId status).map fun row =>
      row.delivery.id).Sublist (deliveries.map Delivery.id) := by
  induction deliveries with
  | nil => exact List.Sublist.slnil
  | cons d deliveries ih =>
    -- a delivery is in one row at most, as its notification's identifier is that of one
    -- notification
    have h_one : (((visibleWebNotifications [d] notifications userId status).map fun row =>
        row.delivery.id)).Sublist [d.id] := by
      rw [visibleWebNotifications, List.flatMap_singleton]
      split
      next => exact List.nil_sublist _
      next deliveredAt _ =>
        split
        next =>
          have h_length := length_filter_id h_notifications d.notificationId
          generalize notifications.filter (fun n => n.id = d.notificationId) = found at h_length
          cases found with
          | nil => exact List.nil_sublist _
          | cons n others =>
            obtain rfl : others = [] := by simpa using h_length
            exact List.Sublist.refl _
        next => exact List.nil_sublist _
    have h_append : visibleWebNotifications (d :: deliveries) notifications userId status =
        visibleWebNotifications [d] notifications userId status ++
          visibleWebNotifications deliveries notifications userId status := by
      simp [visibleWebNotifications]
    rw [h_append, List.map_append]
    exact h_one.append ih

/-- The places of the rows differ, since their deliveries do. -/
theorem nodup_keys {deliveries : List Delivery} {notifications : List Notification}
    (h_deliveries : (deliveries.map Delivery.id).Nodup)
    (h_notifications : (notifications.map Notification.id).Nodup) :
    ((visibleWebNotifications deliveries notifications userId status).map
      VisibleWebDelivery.key).Nodup := by
  have h_ids : ((visibleWebNotifications deliveries notifications userId status).map fun row =>
      row.delivery.id).Nodup := h_deliveries.sublist (snapshot_ids_sublist h_notifications _)
  refine List.Nodup.of_map (fun place => (ofLex place).2) ?_
  rw [List.map_map]
  exact h_ids

/-- **No two rows are at one place.** -/
theorem Sound.snapshot_nodup (hS : Sound w) :
    ((w.snapshot userId status).map VisibleWebDelivery.key).Nodup := by
  have h_notifications : (w.notifications.committed.map Notification.id).Nodup :=
    hS.notifications.nodup.sublist (Table.committed_sublist_rows.map _)
  have h_deliveries : (w.deliveries.committed.map Delivery.id).Nodup :=
    hS.deliveries.nodup.sublist (Table.committed_sublist_rows.map _)
  exact nodup_keys h_deliveries h_notifications

/-- A delivery is in the list at its time, since its notification is there. -/
theorem FanoutRows.mem_snapshot (hR : FanoutRows w) {r : Delivery}
    (hr : r ∈ w.deliveries.committed) {deliveredAt : Instant}
    (h_time : r.deliveredAt = some deliveredAt) (h_listed : r.listedFor userId status = true) :
    toLex (deliveredAt, r.id) ∈ (w.snapshot userId status).map VisibleWebDelivery.key := by
  obtain ⟨n, h_n, h_id, -⟩ := hR.channels r (Table.mem_rows_of_committed hr)
  exact List.mem_map.mpr ⟨⟨r, deliveredAt, n⟩,
    mem_visibleWebNotifications.mpr ⟨hr, h_time, h_listed, h_n, h_id⟩, rfl⟩

/-- What is in the snapshot is a delivery of the list, at its time. -/
theorem lists_of_mem_snapshot {place : ℤ ×ₗ UUID}
    (h : place ∈ (w.snapshot userId status).map VisibleWebDelivery.key) :
    ∃ r ∈ w.deliveries.committed, r.id = (ofLex place).2 ∧ r.deliveredAt = some (ofLex place).1 ∧
      r.listedFor userId status = true := by
  obtain ⟨row, h_row, rfl⟩ := List.mem_map.mp h
  obtain ⟨h_d, h_time, h_listed, -⟩ := mem_visibleWebNotifications.mp h_row
  exact ⟨row.delivery, h_d, rfl, h_time, h_listed⟩

end Snapshots

end NotificationBroker
