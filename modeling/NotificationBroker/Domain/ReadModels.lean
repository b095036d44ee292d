import NotificationBroker.Domain.Enums
import NotificationBroker.Python.IsoFormat

/-!
# Read models

What the list of a user's notifications shows, and the place in it at which a page ends.
-/

namespace NotificationBroker

open Python

/-- A time that a `datetime` can show in UTC. -/
abbrev UtcTime := { t : Instant // Datetime.InRange t }

/-- The time as a `datetime`. -/
def UtcTime.datetime (time : UtcTime) : Datetime := .ofInstant time.val

structure WebNotificationRow where
  id : UUID
  notificationId : UUID
  message : String
  severity : Severity
  readAt : Option UtcTime
  deliveredAt : UtcTime
  createdAt : UtcTime
deriving DecidableEq

/-- The time can be of any offset or of none, but it is one a `datetime` has. -/
structure WebNotificationCursor where
  deliveredAt : Datetime
  deliveryId : UUID
  valid : deliveredAt.Valid
deriving DecidableEq

end NotificationBroker
