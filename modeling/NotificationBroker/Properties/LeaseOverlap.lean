import NotificationBroker.Properties.DeliveryTokens

/-!
# Two workers sending one delivery

A batch of deliveries is claimed under one lease, which is not renewed while the
batch is worked through. `LeasesProtect` says what leases are for: as long as no
single delivery takes longer than a lease, no two workers send one delivery at
the same time. It fails (`not_leasesProtect`): the second delivery of a batch can
outlive the lease although it was in hand for a fraction of it.

What does hold is proved from the rows: a worker's row stays its own until a
claim statement finds the row's lease expired (`ClaimsSpareHeld`). In every run
in which none does, no two sends overlap. So it is enough that all deliveries of a
batch, and not only each by itself, end within the lease of the clock reading that
comes before the batch is claimed (`BatchesInLease`).
-/

namespace NotificationBroker

open Interleave Python
open ReadCommitted (Table)

/-- No delivery is being sent twice. -/
def NoOverlap (w : World) : Prop :=
  ∀ deliveryId, w.working.countP (fun x => x.stage = .sending ∧ x.claim.deliveryId = deliveryId) ≤ 1

/-! ### Leases that protect -/

/-- The lease of the worker that `p` is. -/
def Deployment.leaseDuration (d : Deployment) (p : Pid) : ℤ :=
  match d.calls p with
  | .processDueDeliveries worker _ => worker.leaseDuration
  | _ => 0

/-- What is assumed of a step: all workers read one clock, and no delivery is in
hand for as long as its worker's lease. -/
def Prompt (d : Deployment) (w w' : World) : Prop :=
  (∀ e ∈ newEvents w w', e.honest w) ∧
    ∀ x ∈ w'.working, w'.clock - x.since < d.leaseDuration x.pid

instance (d : Deployment) (w w' : World) : Decidable (Prompt d w w') := by
  unfold Prompt; infer_instance

/-- Leases keep two workers from sending one delivery at the same time. -/
def LeasesProtect : Prop :=
  ∀ (d : Deployment) (clock : Instant) (directory : Directory) (ls : Schedule) (c : State),
    d.Run clock directory ls c →
    surroundings.StepsMeet (Prompt d) (d.start clock directory) ls → NoOverlap c.world

/-- Two deliveries and two workers with a lease of one minute. -/
def batchDeployment : Deployment := .ofCalls id [
  .createNotification ⟨3600000000⟩ "orders" (.toAll [.web, .email] postInit_web_email) none,
  .consume {} "consumer" (.requested 50 10),
  .processDueDeliveries ⟨[.web, .email], none, "first", 60000000, 30000000⟩ 10,
  .processDueDeliveries ⟨[.web, .email], none, "second", 60000000, 30000000⟩ 10]

/-- The first worker takes 50 seconds for the first delivery of its batch. It is
15 seconds into the second when the second worker's poll finds that delivery's
lease expired and sends it as well. -/
def batchSchedule : Schedule := [
  .run 0 (.time (.ofInstant 0)), .run 0 .go, .run 0 (.fresh 10), .run 0 (.fresh 11),
  .run 1 .go, .run 1 (.time (.ofInstant 0)), .run 1 .go, .run 1 .go, .run 1 .go,
  .run 1 (.fresh 21), .run 1 .go, .run 1 .go, .run 1 (.fresh 22), .run 1 (.fresh 23), .run 1 .go,
  .run 1 .go,
  .run 2 (.time (.ofInstant 0)), .run 2 (.claim [] [31, 32]), .run 2 .go, .run 2 .go,
  .env (.tick 50000000), .run 2 (.adapter (.ok ⟨.delivered, none, none, none⟩)),
  .run 2 (.fresh 33), .run 2 .go, .run 2 .go,
  .env (.tick 65000000), .run 3 (.time (.ofInstant 65000000)), .run 3 (.claim [] [41]),
  .run 3 .go, .run 3 .go]

/-- Two workers send the second delivery at the same time. -/
theorem not_leasesProtect : ¬ LeasesProtect := by
  intro h_claim
  obtain ⟨c, h_run, h_two⟩ := batchDeployment.exists_run 0 (.ofUsers [1] (by decide)) batchSchedule
    (fun c => decide (c.world.working.countP (fun x =>
      x.stage = .sending ∧ x.claim.deliveryId = 23) = 2)) (by decide +kernel)
  have h_once := h_claim batchDeployment 0 (.ofUsers [1] (by decide)) batchSchedule c h_run
    (by decide +kernel) 23
  rw [of_decide_eq_true h_two] at h_once
  exact absurd h_once (by decide)

/-! ### Rows in hand -/

/-- The event is not a claim statement that covers a row which a worker has
loaded or is sending: the row's lease has not expired at the reading the
statement runs with. -/
def Event.sparesHeld (w : World) : Event → Prop
  | .deliveriesClaimed _ now channels => ∀ x ∈ w.working, x.stage ≠ .sent →
      ∀ r ∈ w.deliveries.committed, r.heldBy x.claim → ¬ r.due now channels
  | _ => True

instance (w : World) : DecidablePred (Event.sparesHeld w)
  | .clockRead .. | .deliveriesClaimed .. | .contextLoaded .. | .adapterCalled ..
  | .deliveryFinalized .. | .eventFinalized .. | .fanoutCommitted .. | .readMarked .. => by
    unfold Event.sparesHeld
    infer_instance

def ClaimsSpareHeld (w w' : World) : Prop := ∀ e ∈ newEvents w w', e.sparesHeld w

instance (w w' : World) : Decidable (ClaimsSpareHeld w w') := by
  unfold ClaimsSpareHeld; infer_instance

/-- A worker has one delivery in hand at a time, under a token it has generated,
and holds the delivery's row until it has sent it. -/
structure Held (w : World) : Prop where
  single : ∀ p, (w.workingOf p).length ≤ 1
  owned : ∀ x ∈ w.working, (x.claim.claimToken, x.pid) ∈ w.issued
  held : ∀ x ∈ w.working, x.stage ≠ .sent → ∃ r ∈ w.deliveries.committed, r.heldBy x.claim

variable {d : Deployment} {p : Pid} {w w' : World}

/-- Rows held under one delivery's identifier have one owner. -/
theorem Held.noOverlap (hS : Sound w) (hH : Held w) : NoOverlap w := by
  intro deliveryId
  by_cases h_some : ∃ x ∈ w.working, x.stage = .sending ∧ x.claim.deliveryId = deliveryId
  · obtain ⟨x, hx, h_stage, h_id⟩ := h_some
    -- whoever sends it holds the row, and a row has one token, issued to one process
    have h_pid : ∀ y ∈ w.working, y.stage = .sending ∧ y.claim.deliveryId = deliveryId →
        y.pid = x.pid := by
      rintro y hy ⟨h_stage', h_id'⟩
      obtain ⟨r, hr, h_r⟩ := hH.held x hx (by simp [h_stage])
      obtain ⟨r', hr', h_r'⟩ := hH.held y hy (by simp [h_stage'])
      obtain ⟨h_row, -, h_token⟩ := Delivery.heldBy_iff.mp h_r
      obtain ⟨h_row', -, h_token'⟩ := Delivery.heldBy_iff.mp h_r'
      obtain rfl : r' = r := hS.committed_delivery_eq hr' hr
        (by rw [h_row, h_row', h_id, h_id'])
      have h_same : y.claim.claimToken = x.claim.claimToken :=
        Option.some.inj (h_token'.symm.trans h_token)
      exact hS.owner_unique (h_same ▸ hH.owned y hy) (hH.owned x hx)
    -- and a process works on one delivery at a time
    have h_single := hH.single x.pid
    rw [World.workingOf, ← List.countP_eq_length_filter] at h_single
    refine le_trans (List.countP_mono_left fun y hy h => ?_) h_single
    exact decide_eq_true (h_pid y hy (of_decide_eq_true h))
  · refine (List.countP_eq_zero.mpr fun x hx h => h_some ⟨x, hx, of_decide_eq_true h⟩).trans_le ?_
    exact Nat.zero_le 1

/-- Where an entry comes from: it was there, and not further along, or the row it
names has just been loaded. -/
theorem Effect.working_origin (h : Effect d p w w') {x : Working} (hx : x ∈ w'.working) :
    (∃ x₀ ∈ w.working, x₀.pid = x.pid ∧ x₀.claim = x.claim ∧
      (x.stage ≠ .sent → x₀.stage ≠ .sent)) ∨
    ((x.claim.claimToken, x.pid) ∈ w'.issued ∧
      ∃ r ∈ w'.deliveries.committed, r.heldBy x.claim) := by
  cases h with
  | loadContext claim delivery _ h_token h_mem h_held =>
    -- loading starts the work on a claim, and checks that the row is held
    rcases List.mem_append.mp hx with hx | hx
    · exact .inl ⟨x, hx, rfl, rfl, id⟩
    · obtain rfl := List.mem_singleton.mp hx
      exact .inr ⟨h_token, delivery, h_mem, h_held⟩
  | beginSend y delivery h_own h_stage _ =>
    -- sending begins with a claim that is loaded
    obtain ⟨x₀, hx₀, rfl⟩ := List.mem_map.mp hx
    refine .inl ⟨x₀, hx₀, ?_⟩
    split
    next h_pid =>
      have h_mem : x₀ ∈ w.workingOf p := List.mem_filter.mpr ⟨hx₀, decide_eq_true h_pid⟩
      rw [h_own, List.mem_singleton] at h_mem
      exact ⟨rfl, rfl, fun _ => by rw [h_mem, h_stage]; simp⟩
    next => exact ⟨rfl, rfl, id⟩
  | endSend y h_own h_stage =>
    -- it ends with one that has been sent, of which nothing is asked
    obtain ⟨x₀, hx₀, rfl⟩ := List.mem_map.mp hx
    refine .inl ⟨x₀, hx₀, ?_⟩
    split
    next => exact ⟨rfl, rfl, fun h => absurd rfl h⟩
    next => exact ⟨rfl, rfl, id⟩
  | finalizeDelivery | missDelivery | dropDelivery =>
    exact .inl ⟨x, (List.mem_filter.mp hx).1, rfl, rfl, id⟩
  | _ => exact .inl ⟨x, hx, rfl, rfl, id⟩

/-- A row that is held stays held, unless its owner finalizes it: a claim spares
it, a retry and a reader do not take a row in processing, and another worker
finalizes under another token. -/
theorem Acts.held (hS : Sound w) (hH : Held w) (h : Acts d p w w') (h_spare : ClaimsSpareHeld w w')
    {x : Working} (hx : x ∈ w.working) (h_stage : x.stage ≠ .sent)
    (h_there : ∃ y ∈ w'.working, y.pid = x.pid ∧ y.claim = x.claim) :
    ∃ r ∈ w'.deliveries.committed, r.heldBy x.claim := by
  obtain ⟨r, hr, h_held⟩ := hH.held x hx h_stage
  obtain ⟨h_id, h_status, h_token⟩ := Delivery.heldBy_iff.mp h_held
  have h_unchanged : ∀ {f : Delivery → Delivery}, f r = r →
      ∃ r' ∈ (w.deliveries.modify f).committed, r'.heldBy x.claim := fun h_f =>
    ⟨r, List.mem_map.mpr ⟨r, hr, h_f⟩, h_held⟩
  cases h with
  | finish h =>
    cases h with
    | commitNotification => exact ⟨r, hr, h_held⟩
    | commitRetry requester notificationId eligible skipped requestedAt replayId =>
      -- only failed deliveries are replayed, and this one is being processed
      refine h_unchanged (if_neg fun h_replay => ?_)
      exact absurd (Delivery.replayable_iff.mp h_replay).2.2 (by simp [h_status])
  | effect h =>
    cases h with
    | commitFanout => exact ⟨r, List.mem_append_left _ hr, h_held⟩
    | claimDeliveries now lease workerId channels tokens claims _ _ h_due =>
      -- here the condition is used: no claim takes a row whose lease has run out while it is worked
      -- on
      have h_not : ¬ r.due now channels := h_spare (.deliveriesClaimed p now channels)
        (by rw [newEvents_of_append rfl]; exact List.mem_singleton_self _) x hx h_stage r hr h_held
      refine h_unchanged ?_
      unfold Delivery.applyClaims
      split
      next c h_find =>
        have h_r := hS.due_of_claim h_due (List.mem_of_find?_eq_some h_find) hr
          (of_decide_eq_true (List.find?_some h_find :))
        exact absurd h_r h_not
      next => rfl
    | finalizeDelivery y outcome now retryDelay delivery attemptId _ _ h_y =>
      -- the outcome is recorded under the same token, so by the same worker, whose work then ends
      refine h_unchanged (if_neg fun h_held' => ?_)
      have h_same : x.claim.claimToken = y.claim.claimToken :=
        Option.some.inj (h_token.symm.trans (Delivery.heldBy_iff.mp h_held').2.2)
      obtain ⟨z, hz, h_pid, -⟩ := h_there
      have h_owner := hS.owner_unique (h_same ▸ hH.owned x hx) h_y
      exact of_decide_eq_true (List.mem_filter.mp hz).2 (h_pid.trans h_owner)
    | markRead deliveryId readAt h_visible =>
      -- only delivered notifications are read
      refine h_unchanged (if_neg fun h_eq => ?_)
      exact absurd (h_visible r hr h_eq).1 (by simp [h_status])
    | _ => exact ⟨r, hr, h_held⟩

/-- A worker never has two deliveries in hand. -/
theorem Effect.single (h : Effect d p w w') (h_single : ∀ q, (w.workingOf q).length ≤ 1) :
    ∀ q, (w'.workingOf q).length ≤ 1 := by
  intro q
  -- a worker picks a delivery up with empty hands only
  by_cases h_ne : q = p
  · subst h_ne
    cases h with
    | loadContext claim delivery h_own =>
      simp only [World.workingOf, List.filter_append]
      rw [World.workingOf] at h_own
      simp [h_own]
    | beginSend x delivery h_own | endSend x h_own =>
      exact (congrArg List.length (workingOf_advance_self h_own)).le
    | finalizeDelivery | missDelivery | dropDelivery =>
      exact (congrArg List.length (workingOf_putDown_self (w := w))).le.trans (Nat.zero_le 1)
    | _ => exact h_single q
  · rw [h.working_of_ne h_ne]
    exact h_single q

theorem Held.step (hS : Sound w) (hH : Held w) (hM : WorldMove d w w')
    (h_spare : ClaimsSpareHeld w w') : Held w' := by
  cases hM with
  | env e h =>
    obtain ⟨clock, directory, rfl⟩ := env_apply h
    exact ⟨hH.single, hH.owned, hH.held⟩
  | abort p h =>
    subst h
    -- a crash ends the work of one party
    have h_sub : ∀ {x}, x ∈ (World.crash p w).working → x ∈ w.working :=
      fun hx => (List.mem_filter.mp hx).1
    refine ⟨fun q => le_trans (List.Sublist.length_le ?_) (hH.single q),
      fun x hx => hH.owned x (h_sub hx), fun x hx => hH.held x (h_sub hx)⟩
    exact List.filter_sublist.filter _
  | act p h =>
    cases h with
    | finish h =>
      -- work begins and ends within effects
      have h_same : w'.working = w.working := by cases h <;> rfl
      refine ⟨fun q => ?_, fun x hx => ?_, fun x hx h_stage => ?_⟩
      · rw [World.workingOf, h_same]
        exact hH.single q
      · obtain ⟨ids, h_issued⟩ := h.issued
        rw [h_issued]
        exact List.mem_append_left _ (hH.owned x (h_same ▸ hx))
      · exact Acts.held hS hH (.finish h) h_spare (h_same ▸ hx) h_stage ⟨x, hx, rfl, rfl⟩
    | effect h =>
      refine ⟨h.single hH.single, fun x hx => ?_, fun x hx h_stage => ?_⟩
      · rcases h.working_origin hx with ⟨x₀, hx₀, h_pid, h_claim, -⟩ | ⟨h_token, -⟩
        · obtain ⟨ids, -, h_issued⟩ := h.issued
          rw [h_issued, ← h_pid, ← h_claim]
          exact List.mem_append_left _ (hH.owned x₀ hx₀)
        · exact h_token
      · rcases h.working_origin hx with ⟨x₀, hx₀, h_pid, h_claim, h_before⟩ | ⟨-, h_held⟩
        · rw [← h_claim]
          exact Acts.held hS hH (.effect h) h_spare hx₀ (h_before h_stage)
            ⟨x, hx, h_pid.symm, h_claim.symm⟩
        · exact h_held

/-- **Without a claim statement that finds the lease of a row in hand expired, no
two sends of one delivery overlap.** -/
theorem noOverlap_of_claimsSpareHeld {clock : Instant} {directory : Directory} {ls : Schedule}
    {c : State} (h : d.Run clock directory ls c)
    (h_spare : surroundings.StepsMeet ClaimsSpareHeld (d.start clock directory) ls) :
    NoOverlap c.world := by
  refine Held.noOverlap h.sound (h.invariant (P := Held) ⟨fun _ => Nat.zero_le 1,
    fun _ h => absurd h List.not_mem_nil, fun _ h => absurd h List.not_mem_nil⟩
    (fun w w' hS hH hM h_spare => hH.step hS hM h_spare) h_spare)

/-- The same two workers, where the second one polls while the lease of the
batch is still good. -/
theorem noOverlap_early_poll :
    ∃ c, batchDeployment.Run 0 (.ofUsers [1] (by decide)) (batchSchedule.take 25 ++ [
        .run 3 (.time (.ofInstant 50000000)), .run 3 (.claim [] [])]) c ∧
      c.world.working.map Working.stage = [.sending] ∧ NoOverlap c.world := by
  obtain ⟨c, h_run, h_stages⟩ := batchDeployment.exists_run 0 (.ofUsers [1] (by decide))
    (batchSchedule.take 25 ++ [.run 3 (.time (.ofInstant 50000000)), .run 3 (.claim [] [])])
    (fun c => decide (c.world.working.map Working.stage = [.sending])) (by decide +kernel)
  exact ⟨c, h_run, of_decide_eq_true h_stages,
    noOverlap_of_claimsSpareHeld h_run (by decide +kernel)⟩

/-! ### Batches that end within their lease -/

/-- The time a worker has read before its claim is no more than a lease ago while it has a delivery
of the batch in hand. -/
def WorkingInLease (d : Deployment) (w : World) : Prop :=
  ∀ x ∈ w.working, x.stage ≠ .sent → ∀ now, w.HasRead x.pid now →
    w.clock ≤ now + d.leaseDuration x.pid

/-- What is assumed of a step: all workers read one clock, and their batches are in time. -/
def BatchesInLease (d : Deployment) (w w' : World) : Prop := Honest w w' ∧ WorkingInLease d w'

/-- The lease of a row in processing ends a lease after a reading of the worker that holds it. -/
def Delivery.LeasedAt (d : Deployment) (w : World) (r : Delivery) : Prop :=
  r.status = .processing → ∃ token q now, r.claimToken = some token ∧ (token, q) ∈ w.issued ∧
    w.HasRead q now ∧ r.leaseExpiresAt = some (now + d.leaseDuration q)

/-- What holds of the states of a run whose batches are in time. -/
structure HeldInLease (d : Deployment) (w : World) : Prop where
  held : Held w
  leased : ∀ r ∈ w.deliveries.rows, r.LeasedAt d w
  past : ReadingsPast w
  inLease : WorkingInLease d w

theorem Delivery.LeasedAt.mono {r : Delivery} (h : r.LeasedAt d w) (h_move : WorldMove d w w') :
    r.LeasedAt d w' := by
  intro h_processing
  obtain ⟨token, q, now, h_token, h_issued, h_reading, h_lease⟩ := h h_processing
  exact ⟨token, q, now, h_token, h_move.issued_extends.subset h_issued,
    h_reading.mono h_move.history_extends, h_lease⟩

/-- Only a claim takes a row into processing, and it sets the lease. -/
theorem Effect.leased (h : Effect d p w w') : Table.Change
    (fun r r' => r.LeasedAt d w' → r'.LeasedAt d w') (Delivery.LeasedAt d w') p w.deliveries
    w'.deliveries := by
  cases h with
  | rollback => exact .abort
  | insertDelivery x userIds channels recipient channel nextAttemptAt row _ _ _ _ _ _ _ _ h_row =>
    refine .insert row fun h_processing => ?_
    rw [h_row] at h_processing
    exact absurd h_processing (by simp [NotificationFanoutService.deliveryValues])
  | commitFanout => exact .commit
  | claimDeliveries now lease workerId channels tokens claims _ h_claims _ _ h_reading h_lease =>
    refine .modify _ fun r _ h_r => ?_
    unfold Delivery.applyClaims
    split
    next c h_find =>
      -- the claim takes the reading of its call, and adds the lease of its worker
      obtain ⟨worker, limit, h_call, h_lease⟩ := h_lease
      have h_token : c.claimToken ∈ tokens :=
        h_claims ▸ List.mem_map_of_mem (List.mem_of_find?_eq_some h_find)
      refine fun _ => ⟨c.claimToken, p, now, rfl, ?_, h_reading.mono (List.prefix_append _ _), ?_⟩
      · exact List.mem_append_right _ (List.mem_map_of_mem h_token)
      · rw [Deployment.leaseDuration, h_call]
        exact congrArg some h_lease.symm
    next => exact h_r
  | finalizeDelivery x outcome now retryDelay delivery attemptId =>
    refine .modify _ fun r _ h_r => ?_
    split
    · -- what is finalized is not in processing any more
      intro h_processing
      have h_not : DeliveryWorker.finalStatus outcome (r.attemptCount + 1) r.maxAttempts ≠
          .processing := by
        unfold DeliveryWorker.finalStatus
        split
        · simp
        · simp
        · split <;> simp
      exact absurd h_processing h_not
    · exact h_r
  | markRead deliveryId readAt =>
    refine .modify _ fun r _ h_r => ?_
    split
    · exact h_r
    · exact h_r
  | _ => exact .keep

/-- The end of a call takes no row into processing. -/
theorem Finish.processing (h : Finish d p w w') : Table.Change
    (fun r r' => r'.status = .processing → r' = r) (fun _ => False) p w.deliveries
    w'.deliveries := by
  cases h with
  | commitNotification => exact .keep
  | commitRetry requester notificationId eligible skipped requestedAt replayId =>
    refine .modify _ fun r _ => ?_
    split
    · exact fun h_processing => absurd h_processing (by simp [Delivery.requestReplay])
    · exact fun _ => rfl

theorem WorldMove.leased (hL : ∀ r ∈ w.deliveries.rows, r.LeasedAt d w) (h : WorldMove d w w') :
    ∀ r ∈ w'.deliveries.rows, r.LeasedAt d w' := by
  have hL' : ∀ r ∈ w.deliveries.rows, r.LeasedAt d w' := fun r hr => (hL r hr).mono h
  cases h with
  | act p h =>
    cases h with
    | effect h => exact h.leased.forall_rows hL'
    | finish h =>
      intro r' hr' h_processing
      obtain ⟨r, hr, h_same⟩ := (h.processing.origin (fun _ _ => rfl) hr').resolve_right id
      obtain rfl := h_same h_processing
      exact hL' r' hr h_processing
  | env e h =>
    obtain ⟨clock, directory, rfl⟩ := env_apply h
    exact hL'
  | abort p h =>
    subst h
    -- no lease is granted by a rollback
    exact fun r hr => hL' r (Table.rows_abort_sublist.subset hr)

/-- A claim statement runs with a reading of its process. -/
theorem Effect.claim_reading (h : Effect d p w w') {q : Pid} {now : Instant}
    {channels : Option (List Channel)}
    (h_new : .deliveriesClaimed q now channels ∈ newEvents w w') : w.HasRead q now := by
  cases h with
  | claimDeliveries now' leaseExpiresAt workerId channels' tokens claims _ _ _ _ h_reading =>
    rw [newEvents_of_append rfl, List.mem_singleton, Event.deliveriesClaimed.injEq] at h_new
    obtain ⟨rfl, rfl, -⟩ := h_new
    exact h_reading
  | readClock | commitFanout | loadContext | missContext | beginSend | finalizeDelivery
  | missDelivery | markRead | finalizeEvent | missEvent =>
    rw [newEvents_of_append rfl, List.mem_singleton] at h_new
    exact absurd h_new (by simp)
  | _ => exact absurd h_new (not_mem_newEvents rfl)

/-- A worker's lease has not run out at any reading while it works on a batch in time. -/
theorem WorldMove.claimsSpareHeld (hS : Sound w) (hL : HeldInLease d w) (h : WorldMove d w w') :
    ClaimsSpareHeld w w' := by
  intro e h_new
  cases e with
  | deliveriesClaimed q now channels =>
    intro x hx h_stage r hr h_held h_due
    obtain ⟨h_id, h_status, h_token⟩ := Delivery.heldBy_iff.mp h_held
    -- the lease is that of the worker who has the row in hand
    obtain ⟨token, q', now₀, h_token', h_issued, h_reading, h_lease⟩ :=
      hL.leased r (Table.mem_rows_of_committed hr) h_status
    obtain rfl := Option.some.inj (h_token.symm.trans h_token')
    obtain rfl := hS.owner_unique (hL.held.owned x hx) h_issued
    have h_left := hL.inLease x hx h_stage now₀ h_reading
    -- the claim statement runs with a reading that is past
    have h_now : now ≤ w.clock := by
      obtain ⟨p, h_effect⟩ := h.effect_of_history fun h_eq => not_mem_newEvents h_eq h_new
      exact hL.past q now (h_effect.claim_reading h_new)
    -- what is in hand is due only with its lease run out
    rcases Delivery.due_iff h_due with h | h | h | ⟨-, lease, h_expires, h_run_out⟩
    · exact absurd (h_status.symm.trans h) (by simp)
    · exact absurd (h_status.symm.trans h) (by simp)
    · exact absurd (h_status.symm.trans h) (by simp)
    · obtain rfl := Option.some.inj (h_lease.symm.trans h_expires)
      exact absurd h_run_out (not_lt.mpr (h_now.trans h_left))
  | _ => trivial

/-- A step in time keeps the batches in time. -/
theorem HeldInLease.step (hS : Sound w) (hL : HeldInLease d w) (h : WorldMove d w w')
    (h_step : BatchesInLease d w w') : HeldInLease d w' where
  held := hL.held.step hS h (WorldMove.claimsSpareHeld hS hL h)
  leased := WorldMove.leased hL.leased h
  past := WorldMove.readingsPast hL.past h h_step.1
  inLease := h_step.2

/-- **Batches that end within their lease are sent once at a time.** -/
theorem noOverlap_of_batchesInLease {clock : Instant} {directory : Directory} {ls : Schedule}
    {c : State} (h : d.Run clock directory ls c)
    (h_time : surroundings.StepsMeet (BatchesInLease d) (d.start clock directory) ls) :
    NoOverlap c.world := by
  have h_start : HeldInLease d (d.start clock directory).world := by
    refine ⟨⟨fun _ => Nat.zero_le 1, fun _ h => absurd h List.not_mem_nil,
      fun _ h => absurd h List.not_mem_nil⟩, fun _ h => absurd h List.not_mem_nil, ?_,
      fun _ h => absurd h List.not_mem_nil⟩
    rintro q now ⟨value, h_value, -⟩
    exact absurd h_value List.not_mem_nil
  exact Held.noOverlap h.sound (h.invariant h_start
    (fun _ _ hS hL hM h_step => HeldInLease.step hS hL hM h_step) h_time).held

end NotificationBroker
