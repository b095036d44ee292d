import NotificationBroker.Db.Repositories.WebNotifications

/-!
# The web notification service

`WebNotificationService`. The list is one statement. To mark a notification as read, the row
is read in one statement and written by primary key in a later one.
-/

namespace NotificationBroker

open Python

namespace WebNotificationService

/-- `list_for_user`. -/
def listForUser (userId : UUID) (status : WebNotificationStatus) (limit : ℕ)
    (after : Option (Instant × UUID)) : Program (List WebNotificationRow) :=
  unitOfWork (attempt fun p _ w => some (listWebNotificationsForUser (w.deliveries.visible p)
    (w.notifications.visible p) userId status limit after, w))

/-- `mark_read`. -/
def markRead (userId webNotificationId : UUID) : Program MarkWebNotificationReadResult := do
  let readAt ← awareUtcNow
  unitOfWork do
    match ← query fun p w =>
        getVisibleWebDeliveryForUser (w.deliveries.visible p) webNotificationId userId with
    | none => throw (.valueError "web notification does not exist")
    | some delivery =>
      match delivery.readAt with
      -- the first time of reading stays
      | some earlier => return ⟨delivery.id, earlier⟩
      | none => do
        writeReadAt delivery.id readAt
        return ⟨delivery.id, readAt⟩

end WebNotificationService

end NotificationBroker
