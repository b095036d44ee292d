import NotificationBroker.Properties.DeliveryRows

/-!
# The attempts at a delivery

The attempts at a delivery are rows of another table, added by whichever worker
wins the finalization. The delivery's row counts them, and claims, reclaims and
retries move its status without touching either. `Delivery.Audited` ties the row
to its attempts: they are numbered from 1 to the counter, all but the last failed
and could be retried, and the last is what the row's status says it is.

A finalization reads the row under its lock, so the number it gives to the new
attempt is the next one, and `uq_delivery_attempts_delivery_attempt_number` has
nothing to reject.
-/

namespace NotificationBroker

open Interleave Python
open ReadCommitted (Table)
open DeliveryWorker (recordOutcome deliveryAttempt finalStatus)

/-- The attempts at a delivery, in the order in which they were added. -/
def World.attemptsOf (w : World) (deliveryId : UUID) : List DeliveryAttempt :=
  w.attempts.filter fun a => a.deliveryId = deliveryId

/-! ### One row and its attempts -/

namespace Delivery

/-- What the last attempt at a delivery came to, if there was one. -/
def lastOutcome (d : Delivery) : DeliveryStatus :=
  match d.status with
  | .delivered => .delivered
  | .failedTerminal => .failedTerminal
  | _ => .failedRetryable

structure Audited (d : Delivery) (log : List DeliveryAttempt) : Prop where
  numbers : log.map DeliveryAttempt.attemptNumber = List.range' 1 d.attemptCount
  earlier : ∀ a ∈ log.dropLast, a.status = .failedRetryable
  last : ∀ a, log.getLast? = some a → a.status = d.lastOutcome
  attempted : d.status = .delivered ∨ d.status = .failedTerminal ∨ d.status = .failedRetryable →
    0 < d.attemptCount

variable {d d' : Delivery} {log : List DeliveryAttempt}

theorem Initial.audited (h : d.Initial) : d.Audited [] := by
  obtain ⟨notificationId, userId, recipientId, channel, nextAttemptAt, h_row⟩ := h
  rw [h_row]
  exact ⟨rfl, by simp, by simp, by simp [NotificationFanoutService.deliveryValues]⟩

theorem lastOutcome_of_not_settled (h : ¬ d.Settled) : d.lastOutcome = .failedRetryable := by
  unfold Settled at h
  unfold lastOutcome
  cases h_status : d.status <;> simp_all

/-- There are as many attempts as the row counts. -/
theorem Audited.length (h : d.Audited log) : log.length = d.attemptCount := by
  rw [← List.length_map, h.numbers, List.length_range']

/-- An attempt is an earlier one or the last. -/
theorem Audited.status_cases (h : d.Audited log) {a : DeliveryAttempt} (ha : a ∈ log) :
    a.status = .failedRetryable ∨ log.getLast? = some a := by
  cases h_last : log.getLast? with
  | none => exact absurd ha (by simp [List.getLast?_eq_none_iff.mp h_last])
  | some b =>
    rw [← List.dropLast_append_getLast? b h_last] at ha
    rcases List.mem_append.mp ha with ha | ha
    · exact .inl (h.earlier a ha)
    · exact .inr (congrArg some (List.mem_singleton.mp ha).symm)

/-- Before a delivery is settled, every attempt at it could be retried. -/
theorem Audited.retryable (h : d.Audited log) (h_open : ¬ d.Settled) {a : DeliveryAttempt}
    (ha : a ∈ log) : a.status = .failedRetryable := by
  rcases h.status_cases ha with h_status | h_last
  · exact h_status
  · exact (h.last a h_last).trans (lastOutcome_of_not_settled h_open)

/-- A step that leaves the counter alone, and the outcome of a settled row, leaves
the attempts valid. -/
theorem Audited.of_eq (h : d.Audited log) (h_count : d'.attemptCount = d.attemptCount)
    (h_last : d'.lastOutcome = d.lastOutcome)
    (h_attempted : d'.status = .delivered ∨ d'.status = .failedTerminal ∨
      d'.status = .failedRetryable → 0 < d.attemptCount) : d'.Audited log where
  numbers := h_count ▸ h.numbers
  earlier := h.earlier
  last a ha := (h.last a ha).trans h_last.symm
  attempted h_status := h_count ▸ h_attempted h_status

theorem Audited.claim (h : d.Audited log) {now leaseExpiresAt : Instant} {workerId : String}
    {token : UUID} {channels : Option (List Channel)} (h_due : d.due now channels) :
    (d.claim now leaseExpiresAt workerId token).Audited log :=
  h.of_eq rfl (lastOutcome_of_not_settled (not_settled_of_due h_due)).symm
    (by simp [Delivery.claim])

theorem Audited.requestReplay (h : d.Audited log) (replayId : UUID) (requestedAt : Instant)
    (h_failed : d.status = .failedRetryable) : (d.requestReplay replayId requestedAt).Audited log :=
  h.of_eq rfl (lastOutcome_of_not_settled (by simp [Settled, h_failed])).symm
    (by simp [Delivery.requestReplay])

theorem Audited.markRead (h : d.Audited log) (readAt : Instant) : (d.markRead readAt).Audited log :=
  h.of_eq rfl rfl h.attempted

/-- **A finalization adds the next attempt.** -/
theorem Audited.recordOutcome (h : d.Audited log) (h_open : ¬ d.Settled)
    (outcome : DeliveryOutcome) (now retryDelay : ℤ) (id : UUID) :
    (recordOutcome outcome now retryDelay d).Audited
      (log ++ [deliveryAttempt outcome now d id]) where
  numbers := by
    rw [List.map_append, h.numbers]
    change List.range' 1 d.attemptCount ++ [d.attemptCount + 1] = List.range' 1 (d.attemptCount + 1)
    rw [List.range'_1_concat, Nat.add_comm 1]
  earlier a ha := by
    rw [List.dropLast_concat] at ha
    exact h.retryable h_open ha
  last a ha := by
    -- the last attempt is the one just recorded
    rw [List.getLast?_concat] at ha
    obtain rfl := Option.some.inj ha
    change finalStatus outcome (d.attemptCount + 1) d.maxAttempts = _
    unfold lastOutcome DeliveryWorker.recordOutcome
    rcases finalStatus_cases outcome (d.attemptCount + 1) d.maxAttempts with h | h | ⟨h, -⟩ <;>
      simp [h]
  attempted _ := Nat.succ_pos d.attemptCount

/-- The next number has not been given. -/
theorem Audited.next_free (h : d.Audited log) {a : DeliveryAttempt} (ha : a ∈ log) :
    a.attemptNumber ≠ d.attemptCount + 1 := by
  have h_mem := List.mem_map_of_mem (f := DeliveryAttempt.attemptNumber) ha
  rw [h.numbers, List.mem_range'_1] at h_mem
  omega

end Delivery

/-! ### Both tables -/

/-- The rows of `delivery_attempts` against those of `notification_deliveries`. -/
structure AttemptLog (w : World) : Prop where
  audited : ∀ r ∈ w.deliveries.committed, r.Audited (w.attemptsOf r.id)
  own : ∀ p, ∀ r ∈ w.deliveries.own p, r.Initial
  known : ∀ a ∈ w.attempts, ∃ r ∈ w.deliveries.committed, r.id = a.deliveryId

section Moves

variable {d : Deployment} {p : Pid} {w w' : World}

namespace AttemptLog

theorem initial (clock : Instant) (directory : Directory) :
    AttemptLog (World.initial clock directory) where
  audited _ h := absurd h List.not_mem_nil
  own _ _ h := absurd h List.not_mem_nil
  known _ h := absurd h List.not_mem_nil

/-- An uncommitted row has no attempts yet. -/
theorem attemptsOf_own (hS : Sound w) (h : AttemptLog w) {r : Delivery}
    (hr : r ∈ w.deliveries.own p) : w.attemptsOf r.id = [] := by
  refine List.filter_eq_nil_iff.mpr fun a ha h_eq => ?_
  obtain ⟨r', hr', h_id⟩ := h.known a ha
  exact Table.key_ne_of_own hS.deliveries.nodup hr' hr (h_id.trans (of_decide_eq_true h_eq))

/-- The committed deliveries and the attempts are left alone. -/
theorem congr (h : AttemptLog w)
    (h_committed : w'.deliveries.committed = w.deliveries.committed)
    (h_own : ∀ p, ∀ r ∈ w'.deliveries.own p, r ∈ w.deliveries.own p ∨ r.Initial)
    (h_attempts : w'.attempts = w.attempts) : AttemptLog w' where
  audited r hr := by
    rw [World.attemptsOf, h_attempts]
    exact h.audited r (h_committed ▸ hr)
  own q r hr := (h_own q r hr).elim (h.own q r) id
  known a ha := h_committed ▸ h.known a (h_attempts ▸ ha)

/-- An update that keeps the attempts valid. -/
theorem modify (h : AttemptLog w) {f : Delivery → Delivery}
    (hf : ∀ r ∈ w.deliveries.committed, (f r).id = r.id ∧
      ∀ log, r.Audited log → (f r).Audited log)
    (h_deliveries : w'.deliveries = w.deliveries.modify f) (h_attempts : w'.attempts = w.attempts) :
    AttemptLog w' where
  audited r' hr' := by
    rw [h_deliveries] at hr'
    obtain ⟨r, hr, rfl⟩ := List.mem_map.mp hr'
    obtain ⟨h_id, h_audited⟩ := hf r hr
    rw [World.attemptsOf, h_attempts, h_id]
    exact h_audited _ (h.audited r hr)
  own q r hr := by
    rw [h_deliveries, Table.own_modify] at hr
    exact h.own q r hr
  known a ha := by
    obtain ⟨r, hr, h_id⟩ := h.known a (h_attempts ▸ ha)
    rw [h_deliveries]
    exact ⟨f r, List.mem_map_of_mem hr, (hf r hr).1.trans h_id⟩

/-- Committing a fan-out adds rows without attempts. -/
theorem commit (hS : Sound w) (h : AttemptLog w)
    (h_deliveries : w'.deliveries = w.deliveries.commit p) (h_attempts : w'.attempts = w.attempts) :
    AttemptLog w' where
  audited r hr := by
    rw [h_deliveries, Table.committed_commit] at hr
    rw [World.attemptsOf, h_attempts]
    rcases List.mem_append.mp hr with hr | hr
    · exact h.audited r hr
    · -- a row that has just been committed has had no attempt
      have h_none : w.attempts.filter (fun a => a.deliveryId = r.id) = [] := h.attemptsOf_own hS hr
      rw [h_none]
      exact (h.own p r hr).audited
  own q r hr := by
    rw [h_deliveries] at hr
    by_cases h_ne : q = p
    · rw [h_ne, Table.own_commit_self] at hr
      exact absurd hr List.not_mem_nil
    · rw [Table.own_commit_of_ne h_ne] at hr
      exact h.own q r hr
  known a ha := by
    obtain ⟨r, hr, h_id⟩ := h.known a (h_attempts ▸ ha)
    rw [h_deliveries]
    exact ⟨r, List.mem_append_left _ hr, h_id⟩

/-- **A finalization adds one attempt at the delivery it finalizes**, and at no
other. -/
theorem finalize (hS : Sound w) (h : AttemptLog w) {claim : ClaimedDelivery}
    {outcome : DeliveryOutcome} {now retryDelay : ℤ} {delivery : Delivery} {attemptId : UUID}
    (h_mem : delivery ∈ w.deliveries.committed) (h_held : delivery.heldBy claim)
    (h_deliveries : w'.deliveries = w.deliveries.modify fun r =>
      if r.heldBy claim then recordOutcome outcome now retryDelay r else r)
    (h_attempts : w'.attempts = w.attempts ++ [deliveryAttempt outcome now delivery attemptId]) :
    AttemptLog w' := by
  obtain ⟨h_id, h_status, -⟩ := Delivery.heldBy_iff.mp h_held
  -- the claim holds one row, so the row that is written is the one the attempt is of
  have h_same : ∀ r ∈ w.deliveries.committed, r.id = delivery.id → r = delivery := fun r hr =>
    hS.committed_delivery_eq hr h_mem
  refine ⟨fun r' hr' => ?_, fun q r hr => ?_, fun a ha => ?_⟩
  · rw [h_deliveries] at hr'
    obtain ⟨r, hr, rfl⟩ := List.mem_map.mp hr'
    rw [World.attemptsOf, h_attempts, List.filter_append]
    split
    next h_r =>
      obtain rfl := h_same r hr ((Delivery.heldBy_iff.mp h_r).1.trans h_id.symm)
      -- the row of the attempt: one more attempt and one more in the log
      have h_new : [deliveryAttempt outcome now r attemptId].filter
          (fun a => a.deliveryId = (recordOutcome outcome now retryDelay r).id) =
          [deliveryAttempt outcome now r attemptId] :=
        List.filter_eq_self.mpr (by simp [deliveryAttempt, recordOutcome])
      rw [h_new]
      exact (h.audited r hr).recordOutcome (by simp [Delivery.Settled, h_status]) _ _ _ _
    next h_r =>
      -- any other row: the attempt is not in its log
      have h_ne : delivery.id ≠ r.id := fun h_eq => h_r (h_same r hr h_eq.symm ▸ h_held)
      have h_new : [deliveryAttempt outcome now delivery attemptId].filter
          (fun a => a.deliveryId = r.id) = [] :=
        List.filter_eq_nil_iff.mpr (by simp [deliveryAttempt, h_ne])
      rw [h_new, List.append_nil]
      exact h.audited r hr
  · rw [h_deliveries, Table.own_modify] at hr
    exact h.own q r hr
  · -- no attempt without its delivery
    have h_row : ∃ r ∈ w.deliveries.committed, r.id = a.deliveryId := by
      rcases List.mem_append.mp (h_attempts ▸ ha) with ha | ha
      · exact h.known a ha
      · exact ⟨delivery, h_mem, List.mem_singleton.mp ha ▸ rfl⟩
    obtain ⟨r, hr, h_r⟩ := h_row
    rw [h_deliveries]
    refine ⟨_, List.mem_map_of_mem hr, Eq.trans ?_ h_r⟩
    split <;> rfl

end AttemptLog

theorem Effect.attemptLog (hS : Sound w) (hA : AttemptLog w) (h : Effect d p w w') :
    AttemptLog w' := by
  have h_own := fun q r hr => ((h.deliveries hS).own_origin (q := q) (r := r) hr).imp_right
    fun h_new => h_new.2.initial
  cases h with
  | commitFanout => exact hA.commit hS rfl rfl
  | claimDeliveries now leaseExpiresAt workerId channels tokens claims _ _ h_due =>
    refine hA.modify (fun r hr => ⟨congrArg Prod.fst (Delivery.applyClaims_key ..),
      fun log h_log => ?_⟩) rfl rfl
    unfold Delivery.applyClaims
    split
    next c h_find =>
      -- a claim starts the next attempt of a row that was due
      have h_r := hS.due_of_claim h_due (List.mem_of_find?_eq_some h_find) hr
        (of_decide_eq_true (List.find?_some h_find :))
      exact h_log.claim h_r
    next => exact h_log
  | finalizeDelivery x outcome now retryDelay delivery attemptId _ _ _ h_mem h_held =>
    exact hA.finalize hS h_mem h_held rfl rfl
  | markRead deliveryId readAt =>
    refine hA.modify (fun r _ => ?_) rfl rfl
    split
    · exact ⟨rfl, fun log h_log => h_log.markRead readAt⟩
    · exact ⟨rfl, fun log h_log => h_log⟩
  | _ => exact hA.congr rfl h_own rfl

theorem Finish.attemptLog (hA : AttemptLog w) (h : Finish d p w w') : AttemptLog w' := by
  cases h with
  | commitNotification => exact hA.congr rfl (fun _ _ => .inl) rfl
  | commitRetry requester notificationId eligible skipped requestedAt replayId =>
    refine hA.modify (fun r _ => ?_) rfl rfl
    split
    next h_replay =>
      exact ⟨rfl, fun log h_log =>
        h_log.requestReplay replayId requestedAt (Delivery.replayable_iff.mp h_replay).2.2⟩
    next => exact ⟨rfl, fun log h_log => h_log⟩

theorem WorldMove.attemptLog (hS : Sound w) (hA : AttemptLog w) (h : WorldMove d w w') :
    AttemptLog w' := by
  cases h with
  | act p h =>
    cases h with
    | effect h => exact h.attemptLog hS hA
    | finish h => exact h.attemptLog hA
  | env e h =>
    obtain ⟨clock, directory, rfl⟩ := env_apply h
    exact hA.congr rfl (fun _ _ => .inl) rfl
  | abort p h =>
    subst h
    -- a rollback takes open rows away and no committed one
    refine hA.congr rfl (fun q r hr => .inl ?_) rfl
    by_cases h_ne : q = p
    · subst h_ne
      have h_none : (surroundings.abort q w).deliveries.own q = [] := Table.own_abort_self
      exact absurd (h_none ▸ hr) List.not_mem_nil
    · exact Table.own_abort_of_ne h_ne ▸ hr

end Moves

/-! ### Runs -/

variable {d : Deployment} {clock : Instant} {directory : Directory} {ls : Schedule} {c : State}

theorem Deployment.Run.attemptLog (h : d.Run clock directory ls c) : AttemptLog c.world :=
  h.always (AttemptLog.initial clock directory) fun _ _ hS hA hM => hM.attemptLog hS hA

/-- Every delivery, committed or not, has the attempts its row speaks of. -/
theorem Deployment.Run.attempts_audited (h : d.Run clock directory ls c) {r : Delivery}
    (hr : r ∈ c.world.deliveries.rows) : r.Audited (c.world.attemptsOf r.id) := by
  rcases Table.mem_rows.mp hr with h_com | ⟨p, h_own⟩
  · exact h.attemptLog.audited r h_com
  · rw [h.attemptLog.attemptsOf_own h.sound h_own]
    exact (h.attemptLog.own p r h_own).audited

/-- **The attempts at every delivery are what its row says**, in every state of
every run. -/
theorem attempts_match_delivery (h : d.Run clock directory ls c) :
    ∀ r ∈ c.world.deliveries.rows,
      (c.world.attemptsOf r.id).map DeliveryAttempt.attemptNumber =
        List.range' 1 r.attemptCount ∧
      -- a number that is in use is never given again
      (∀ outcome now id, ¬ c.world.attempts.any (deliveryAttempt outcome now r id).conflicts) ∧
      (∀ a ∈ (c.world.attemptsOf r.id).dropLast, a.status = .failedRetryable) ∧
      (∀ a ∈ c.world.attemptsOf r.id, a.status = .delivered ∨ a.status = .failedTerminal →
        (c.world.attemptsOf r.id).getLast? = some a ∧ a.attemptNumber = r.attemptCount) ∧
      (r.status = .delivered ∨ r.status = .failedTerminal ∨ r.status = .failedRetryable →
        ∃ a, (c.world.attemptsOf r.id).getLast? = some a ∧ a.status = r.status) ∧
      (r.status = .processing ∨ r.status = .replayRequested → 0 < r.attemptCount →
        ∃ a, (c.world.attemptsOf r.id).getLast? = some a ∧ a.status = .failedRetryable) := by
  intro r hr
  have h_audited := h.attempts_audited hr
  have h_last : 0 < r.attemptCount →
      ∃ a, (c.world.attemptsOf r.id).getLast? = some a ∧ a.status = r.lastOutcome := by
    intro h_pos
    cases h_eq : (c.world.attemptsOf r.id).getLast? with
    | some a => exact ⟨a, rfl, h_audited.last a h_eq⟩
    | none =>
      have h_length := h_audited.length
      rw [List.getLast?_eq_none_iff.mp h_eq, List.length_nil] at h_length
      omega
  refine ⟨h_audited.numbers, fun outcome now id h_any => ?_, h_audited.earlier,
    fun a ha h_status => ?_, fun h_status => ?_, fun h_status h_pos => ?_⟩
  · obtain ⟨a, ha, h_conflict⟩ := List.any_eq_true.mp h_any
    obtain ⟨h_delivery, h_number⟩ := Bool.and_eq_true_iff.mp h_conflict
    have h_of : a.deliveryId = r.id := (of_decide_eq_true h_delivery).symm
    exact h_audited.next_free (List.mem_filter.mpr ⟨ha, decide_eq_true h_of⟩)
      (of_decide_eq_true h_number).symm
  · rcases h_audited.status_cases ha with h_retryable | h_is_last
    · exact absurd h_status (by simp [h_retryable])
    · refine ⟨h_is_last, ?_⟩
      have h_number := congrArg List.getLast? h_audited.numbers
      rw [List.getLast?_map, h_is_last] at h_number
      cases h_count : r.attemptCount with
      | zero => rw [h_count] at h_number; exact absurd h_number (by simp)
      | succ n =>
        rw [h_count, List.range'_1_concat, List.getLast?_concat] at h_number
        have h_eq : a.attemptNumber = 1 + n := Option.some.inj h_number
        rw [h_eq, Nat.add_comm]
  · obtain ⟨a, h_a, h_outcome⟩ := h_last (h_audited.attempted h_status)
    refine ⟨a, h_a, h_outcome.trans ?_⟩
    rcases h_status with h_eq | h_eq | h_eq <;> simp [Delivery.lastOutcome, h_eq]
  · obtain ⟨a, h_a, h_outcome⟩ := h_last h_pos
    refine ⟨a, h_a, h_outcome.trans ?_⟩
    rcases h_status with h_eq | h_eq <;> simp [Delivery.lastOutcome, h_eq]

/-- A worker that fails, a retry, and two more workers: the first of them is
slower than its lease, and the other delivers in its place. -/
def retriedDeployment : Deployment := .ofCalls id [
  .createNotification ⟨3600000000⟩ "orders" (.toAll [.web] postInit_web) none,
  .consume {} "consumer" (.requested 11 10),
  .processDueDeliveries ⟨[.web], none, "first", 60000000, 30000000⟩ 10,
  .retryNotification 10 .service "orders",
  .processDueDeliveries ⟨[.web], none, "second", 60000000, 30000000⟩ 10,
  .processDueDeliveries ⟨[.web], none, "third", 60000000, 30000000⟩ 10]

def retriedSchedule : Schedule := [
  .run 0 (.time (.ofInstant 0)), .run 0 .go, .run 0 (.fresh 10), .run 0 (.fresh 11),
  .run 1 .go, .run 1 (.time (.ofInstant 0)), .run 1 .go, .run 1 .go, .run 1 .go,
  .run 1 (.fresh 21), .run 1 .go, .run 1 .go, .run 1 (.fresh 22), .run 1 .go, .run 1 .go,
  .run 2 (.time (.ofInstant 5)), .run 2 (.claim [] [31]), .run 2 .go, .run 2 .go,
  .run 2 (.adapter (.error "Timeout")), .run 2 (.fresh 32),
  .run 3 (.time (.ofInstant 9)), .run 3 .go, .run 3 .go, .run 3 (.retry [] 41 42 43),
  .run 4 (.time (.ofInstant 10)), .run 4 (.claim [] [51]), .run 4 .go, .run 4 .go,
  .run 5 (.time (.ofInstant 70000000)), .run 5 (.claim [] [61]), .run 5 .go, .run 5 .go,
  .run 5 (.adapter (.ok ⟨.delivered, none, none, none⟩)), .run 5 (.fresh 62),
  .run 4 (.adapter (.error "Timeout")), .run 4 .go]

theorem attempts_retried :
    ∃ c, retriedDeployment.Run 0 (.ofUsers [1] (by decide)) retriedSchedule c ∧
      c.world.deliveries.committed.map (fun r => (r.id, r.status, r.attemptCount)) =
        [(22, .delivered, 2)] ∧
      c.world.attempts.map (fun a => (a.attemptNumber, a.status)) =
        [(1, .failedRetryable), (2, .delivered)] ∧
      ∀ r ∈ c.world.deliveries.rows, (c.world.attemptsOf r.id).map DeliveryAttempt.attemptNumber =
        List.range' 1 r.attemptCount := by
  obtain ⟨c, h_run, h_rows⟩ := retriedDeployment.exists_run 0 (.ofUsers [1] (by decide))
    retriedSchedule (fun c => decide (
      c.world.deliveries.committed.map (fun r => (r.id, r.status, r.attemptCount)) =
        [(22, .delivered, 2)] ∧
      c.world.attempts.map (fun a => (a.attemptNumber, a.status)) =
        [(1, .failedRetryable), (2, .delivered)])) (by decide +kernel)
  obtain ⟨h_delivery, h_attempts⟩ := of_decide_eq_true h_rows
  exact ⟨c, h_run, h_delivery, h_attempts, fun r hr => (attempts_match_delivery h_run r hr).1⟩

end NotificationBroker
