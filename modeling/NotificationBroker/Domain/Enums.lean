import Mathlib.Init

/-!
# Enumerations of the domain

The string enumerations of the service. `value` is the text a member is stored
and transmitted as, and `ofValue?` the lookup by value, which is undefined on
other texts. Columns that a `CHECK` constraint restricts to the members of an
enumeration are typed by it; the columns the code itself parses keep the text.
-/

namespace NotificationBroker

inductive Severity
  | info
  | warning
  | error
  | critical
deriving DecidableEq

def Severity.value : Severity → String
  | info => "info"
  | warning => "warning"
  | error => "error"
  | critical => "critical"

inductive Channel
  | web
  | email
deriving DecidableEq

/-- `Severity(text)`. -/
def Severity.ofValue? (text : String) : Option Severity :=
  [info, warning, error, critical].find? fun s => s.value = text

namespace Channel

def value : Channel → String
  | web => "web"
  | email => "email"

/-- `Channel(text)`. -/
def ofValue? (text : String) : Option Channel := [web, email].find? fun c => c.value = text

@[simp] theorem ofValue?_value (c : Channel) : ofValue? c.value = some c := by
  cases c <;> decide

theorem value_injective : Function.Injective value := fun a b h => by
  have h_lookup := congrArg ofValue? h
  rw [ofValue?_value, ofValue?_value] at h_lookup
  exact Option.some.inj h_lookup

theorem value_of_ofValue? {text : String} {c : Channel} (h : ofValue? text = some c) :
    c.value = text := by
  unfold ofValue? at h
  exact of_decide_eq_true (List.find?_some h :)

end Channel

inductive AudienceType
  | all
  | group
  | labels
deriving DecidableEq

def AudienceType.value : AudienceType → String
  | all => "all"
  | group => "group"
  | labels => "labels"

/-- `AudienceType(text)`. -/
def AudienceType.ofValue? (text : String) : Option AudienceType :=
  [all, group, labels].find? fun t => t.value = text

inductive DeliveryStatus
  | pending
  | processing
  | replayRequested
  | delivered
  | failedRetryable
  | failedTerminal
deriving DecidableEq

def DeliveryStatus.value : DeliveryStatus → String
  | pending => "pending"
  | processing => "processing"
  | replayRequested => "replay_requested"
  | delivered => "delivered"
  | failedRetryable => "failed_retryable"
  | failedTerminal => "failed_terminal"

inductive DeliveryOutcomeStatus
  | delivered
  | failedRetryable
  | failedTerminal
deriving DecidableEq

inductive WebNotificationStatus
  | all
  | unread
  | read
deriving DecidableEq

inductive NotificationCreateResultStatus
  | created
  | existing
deriving DecidableEq

inductive OutboxEventStatus
  | pending
  | publishing
  | published
  | failedRetryable
  | failedTerminal
deriving DecidableEq

inductive ActionInvocationResult
  | queued
  | noEligible
deriving DecidableEq

inductive RequestedByType
  | service
  | user
deriving DecidableEq

end NotificationBroker
