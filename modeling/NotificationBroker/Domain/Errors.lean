import Mathlib.Data.Int.Notation
import Mathlib.Data.Nat.Notation

/-!
# Exceptions

The exceptions the modelled code raises or lets through. `keyError` is the
lookup of a missing key in a dictionary, `overflowError` a `datetime` past the year 9999,
`integrityError` a violated database constraint, and `external` whatever the code outside
this repository raises.
-/

namespace NotificationBroker

inductive PyError
  | valueError (message : String)
  | permissionError (message : String)
  | idempotencyConflict (message : String)
  | producerQuotaExceeded (retryAfterSeconds : ℤ)
  | fanoutLimitExceeded (recipients deliveries : ℕ)
  | keyError
  | overflowError
  | integrityError
  | external (message : String)
deriving DecidableEq

end NotificationBroker
