import NotificationBroker.Db.Repositories.Notifications

/-!
# The delivery worker

`DeliveryWorker.process_due_deliveries`: claim a batch under one lease, and then,
delivery by delivery, load its context, call its adapter and record the outcome.
All of them use the one clock reading made before the claim.
-/

namespace NotificationBroker

open Python

/-- A delivery worker; `adapters` are the channels it has an adapter for. -/
structure DeliveryWorker where
  adapters : List Channel
  channels : Option (List Channel)
  workerId : String
  leaseDuration : ℤ
  retryDelay : ℤ

namespace DeliveryWorker

/-- `_final_status`. -/
def finalStatus (outcome : DeliveryOutcome) (attemptCount maxAttempts : ℕ) : DeliveryStatus :=
  match outcome.status with
  | .delivered => .delivered
  | .failedTerminal => .failedTerminal
  | .failedRetryable =>
    -- a failure that could be retried is final with the last attempt
    if maxAttempts ≤ attemptCount then .failedTerminal else .failedRetryable

/-- What `_record_outcome` sets on the delivery's row. -/
def recordOutcome (outcome : DeliveryOutcome) (now retryDelay : ℤ) (d : Delivery) : Delivery :=
  let status := finalStatus outcome (d.attemptCount + 1) d.maxAttempts
  { d with
    attemptCount := d.attemptCount + 1
    status := status
    providerMessageId := outcome.providerMessageId
    lastErrorCode := if status = .delivered then none else outcome.errorCode
    lastErrorMessage := if status = .delivered then none else outcome.errorMessage
    updatedAt := now
    deliveredAt := if status = .delivered then some now else d.deliveredAt
    nextAttemptAt := if status = .failedRetryable then now + retryDelay else now
    processingStartedAt := none
    leaseExpiresAt := none
    claimedBy := none
    claimToken := none }

/-- The attempt `_record_outcome` adds. -/
def deliveryAttempt (outcome : DeliveryOutcome) (now : Instant) (d : Delivery) (id : UUID) :
    DeliveryAttempt where
  id := id
  deliveryId := d.id
  attemptNumber := d.attemptCount + 1
  status := finalStatus outcome (d.attemptCount + 1) d.maxAttempts
  errorCode := outcome.errorCode
  errorMessage := outcome.errorMessage
  providerMessageId := outcome.providerMessageId
  startedAt := now
  finishedAt := some now

/-- `p` has nothing in hand any more. -/
def putDown (p : Pid) (w : World) : World :=
  { w with working := w.working.filter fun x => x.pid ≠ p }

/-- `p` goes on to the next stage of the delivery it has in hand. -/
def advance (p : Pid) (stage : Stage) (w : World) : World :=
  { w with working := w.working.map fun x => if x.pid = p then { x with stage := stage } else x }

/-- `_load_claimed_delivery_context`. -/
def loadClaimedDeliveryContext (claim : ClaimedDelivery) : Program (Option Delivery) :=
  perform fun p _ w =>
    match getClaimedDelivery w.deliveries.committed claim with
    | some d => some (some d, { w.record (.contextLoaded p claim (some d)) with
        working := w.working ++ [⟨p, claim, w.clock, .loaded⟩] })
    | none => some (none, w.record (.contextLoaded p claim none))

/-- The call of `adapter.deliver`: it starts, and it ends with an outcome or an
exception. -/
def callAdapter (claim : ClaimedDelivery) (delivery : Delivery) : Program DeliveryOutcome := do
  perform fun p _ w =>
    some ((), (advance p .sending w).record (.adapterCalled p claim delivery))
  perform fun p i w =>
    match i with
    | .adapter (.ok outcome) => some (outcome, advance p .sent w)
    -- `except Exception` around the adapter
    | .adapter (.error exceptionName) =>
      some (⟨.failedRetryable, none, some "adapter_exception",
        some ("delivery adapter raised " ++ exceptionName)⟩, advance p .sent w)
    | _ => none

/-- `_deliver`. -/
def deliver (worker : DeliveryWorker) (claim : ClaimedDelivery) (delivery : Delivery) :
    Program DeliveryOutcome :=
  match Channel.ofValue? delivery.channel with
  | none => pure ⟨.failedTerminal, none, some "unsupported_channel",
      some ("unsupported channel " ++ delivery.channel)⟩
  | some channel =>
    if channel ∈ worker.adapters then callAdapter claim delivery
    else pure ⟨.failedTerminal, none, some "missing_adapter",
      some ("missing delivery adapter for " ++ channel.value)⟩

/-- The statements of `_finalize_claimed_delivery`, `_record_outcome` and the
commit. The database checks the bounds on the attempts and the uniqueness of the
attempt number. -/
def commitOutcome (claim : ClaimedDelivery) (outcome : DeliveryOutcome) (now retryDelay : ℤ) :
    Action (Except PyError Bool) := fun p i w =>
  match getClaimedDelivery w.deliveries.committed claim with
  -- the lease has run out and another worker has taken the delivery
  | none => some (.ok false, (putDown p w).record (.deliveryFinalized p claim false))
  | some d =>
    match i with
    | .fresh id =>
      let attempt := deliveryAttempt outcome now d id
      if w.Fresh id then
        if (recordOutcome outcome now retryDelay d).attemptBounds ∧
            ¬ w.attempts.any attempt.conflicts then
          some (.ok true,
            { ((putDown p w).issue p [id]).record (.deliveryFinalized p claim true) with
              deliveries := w.deliveries.modify fun r =>
                if r.heldBy claim then recordOutcome outcome now retryDelay r else r
              attempts := w.attempts ++ [attempt] })
        else some (.error .integrityError, putDown p w)
      else none
    | _ => none

/-- `_finalize_claimed_delivery`. -/
def finalizeClaimedDelivery (worker : DeliveryWorker) (claim : ClaimedDelivery)
    (outcome : DeliveryOutcome) (now : Instant) : Program Bool :=
  unitOfWork (attempt (commitOutcome claim outcome now worker.retryDelay))

/-- The loop over the claims: the number of deliveries processed. -/
def processClaims (worker : DeliveryWorker) (now : Instant) : List ClaimedDelivery → Program ℕ
  | [] => pure 0
  | claim :: claims => do
    match ← loadClaimedDeliveryContext claim with
    -- `continue`
    | none => worker.processClaims now claims
    | some delivery => do
      let outcome ← worker.deliver claim delivery
      let finalized ← worker.finalizeClaimedDelivery claim outcome now
      let processed ← worker.processClaims now claims
      return if finalized then processed + 1 else processed

/-- `process_due_deliveries`. -/
def processDueDeliveries (worker : DeliveryWorker) (limit : ℤ) : Program DeliveryWorkerResult := do
  let now ← awareUtcNow
  let leaseExpiresAt := now + worker.leaseDuration
  let claims ← claimDueDeliveries now limit worker.workerId leaseExpiresAt worker.channels
  let processedCount ← worker.processClaims now claims
  return ⟨claims.length, processedCount⟩

end DeliveryWorker

end NotificationBroker
