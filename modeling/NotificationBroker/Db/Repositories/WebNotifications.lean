import NotificationBroker.Db.Repositories.Notifications
import NotificationBroker.Domain.ReadModels

/-!
# The list of a user's web notifications

`list_web_notifications_for_user`: the visible web deliveries of a user joined with their
notifications, the latest first, and behind a place in the list if there is one.
-/

namespace NotificationBroker

open Python

/-- A row of the join, with the delivery's timestamp. -/
structure VisibleWebDelivery where
  delivery : Delivery
  deliveredAt : Instant
  notification : Notification

/-- The predicate of a status filter. -/
def WebNotificationStatus.admits (status : WebNotificationStatus) (d : Delivery) : Bool :=
  match status with
  | .all => true
  | .unread => d.readAt.isNone
  | .read => d.readAt.isSome

/-- The predicates of `_visible_web_notifications_statement`, the timestamp's excepted. -/
def Delivery.listedFor (d : Delivery) (userId : UUID) (status : WebNotificationStatus) : Bool :=
  decide (d.userId = userId) && decide (d.channel = Channel.web.value) &&
    decide (d.status = .delivered) && status.admits d

/-- The rows of `_visible_web_notifications_statement`. -/
def visibleWebNotifications (deliveries : List Delivery) (notifications : List Notification)
    (userId : UUID) (status : WebNotificationStatus) : List VisibleWebDelivery :=
  deliveries.flatMap fun d =>
    match d.deliveredAt with
    | none => []
    | some deliveredAt =>
      if d.listedFor userId status then
        (notifications.filter fun n => n.id = d.notificationId).map fun n => ⟨d, deliveredAt, n⟩
      else []

namespace VisibleWebDelivery

/-- `after_cursor`. -/
def afterCursor (row : VisibleWebDelivery) (after : Option (Instant × UUID)) : Bool :=
  match after with
  | none => true
  | some (deliveredAt, deliveryId) =>
    decide (row.deliveredAt < deliveredAt) ||
      (decide (row.deliveredAt = deliveredAt) && decide (row.delivery.id < deliveryId))

/-- `ORDER BY delivered_at DESC, id DESC`. -/
def before (a b : VisibleWebDelivery) : Prop :=
  b.deliveredAt < a.deliveredAt ∨ (b.deliveredAt = a.deliveredAt ∧ b.delivery.id ≤ a.delivery.id)

instance : DecidableRel before := fun a b => by unfold before; infer_instance

end VisibleWebDelivery

/-- What the driver makes of a timestamp: it raises where there is no such `datetime`. -/
def loadTime (t : Instant) : Except PyError UtcTime :=
  if h : Datetime.InRange t then .ok ⟨t, h⟩ else .error (.external "timestamp out of range")

/-- A row as it is loaded. -/
def VisibleWebDelivery.load (row : VisibleWebDelivery) : Except PyError WebNotificationRow := do
  let readAt ← row.delivery.readAt.mapM loadTime
  let deliveredAt ← loadTime row.deliveredAt
  let createdAt ← loadTime row.notification.createdAt
  return ⟨row.delivery.id, row.delivery.notificationId, row.notification.message,
    row.notification.severity, readAt, deliveredAt, createdAt⟩

/-- `list_web_notifications_for_user`. -/
def listWebNotificationsForUser (deliveries : List Delivery) (notifications : List Notification)
    (userId : UUID) (status : WebNotificationStatus) (limit : ℕ)
    (after : Option (Instant × UUID)) : Except PyError (List WebNotificationRow) :=
  ((((visibleWebNotifications deliveries notifications userId status).filter fun row =>
    row.afterCursor after).insertionSort VisibleWebDelivery.before).take limit).mapM
      VisibleWebDelivery.load

end NotificationBroker
