import NotificationBroker.Properties.DeliveryTokens

/-!
# A delivery is decided once

Workers, retries and readers act on one row between a claim and its finalization.
Four facts hold of every run: a delivery that is delivered or has failed for good
stays as it is, a claim token finalizes its row at most once, a worker that has
lost its row changes nothing, and an adapter is only ever called for a row that
was in processing under the worker's own token when its context was loaded.
-/

namespace NotificationBroker

open Interleave Python
open ReadCommitted (Table Grows)

variable {d : Deployment} {p q : Pid} {w w' : World}

/-! ### What a step that finalizes, loads or sends has found -/

/-- A worker whose row is not held under its claim changes nothing but its own
records. -/
theorem Effect.finalize_lost (h : Effect d q w w') {claim : ClaimedDelivery} {applied : Bool}
    (h_event : w'.history = w.history ++ [.deliveryFinalized p claim applied])
    (h_lost : ∀ r ∈ w.deliveries.committed, r.heldBy claim = false) :
    applied = false ∧ w' = { w with working := w'.working, history := w'.history } := by
  cases h with
  | missDelivery claim' _ =>
    simp only [World.record, DeliveryWorker.putDown, List.append_cancel_left_eq, List.cons.injEq,
      Event.deliveryFinalized.injEq, and_true] at h_event
    exact ⟨h_event.2.2.symm, rfl⟩
  | finalizeDelivery x outcome now retryDelay delivery attemptId _ _ _ h_mem h_held =>
    simp only [World.record, World.issue, DeliveryWorker.putDown, List.append_cancel_left_eq,
      List.cons.injEq, Event.deliveryFinalized.injEq, and_true] at h_event
    obtain ⟨-, rfl, -⟩ := h_event
    exact absurd h_held (by simp [h_lost delivery h_mem])
  | _ => exact absurd h_event (by simp [World.record, World.issue, World.rollback,
      NotificationFanoutService.note, DeliveryWorker.advance, DeliveryWorker.putDown])

/-- A worker that finds the context of a claim has found the row in processing
under the claim's token. -/
theorem Effect.context_loaded (h : Effect d q w w') {claim : ClaimedDelivery} {r : Delivery}
    (h_new : .contextLoaded p claim (some r) ∈ w'.history)
    (h_old : .contextLoaded p claim (some r) ∉ w.history) :
    r ∈ w.deliveries.committed ∧ r.heldBy claim = true := by
  cases h with
  | loadContext claim' delivery _ _ h_mem h_held =>
    simp only [World.record, List.mem_append, h_old, List.mem_singleton,
      Event.contextLoaded.injEq, Option.some.injEq, false_or] at h_new
    obtain ⟨-, rfl, rfl⟩ := h_new
    exact ⟨h_mem, h_held⟩
  | _ => exact absurd h_new (by simpa [World.record, World.issue, World.rollback,
      NotificationFanoutService.note, DeliveryWorker.advance, DeliveryWorker.putDown] using h_old)

/-- A worker calls an adapter with a context it has loaded. -/
theorem Effect.adapter_called (h : Effect d q w w') {claim : ClaimedDelivery} {r : Delivery}
    (h_new : .adapterCalled p claim r ∈ w'.history) (h_old : .adapterCalled p claim r ∉ w.history) :
    .contextLoaded p claim (some r) ∈ w.history := by
  cases h with
  | beginSend x delivery _ _ h_loaded =>
    simp only [World.record, DeliveryWorker.advance, List.mem_append, h_old, List.mem_singleton,
      Event.adapterCalled.injEq, false_or] at h_new
    obtain ⟨rfl, rfl, rfl⟩ := h_new
    exact h_loaded
  | _ => exact absurd h_new (by simpa [World.record, World.issue, World.rollback,
      NotificationFanoutService.note, DeliveryWorker.advance, DeliveryWorker.putDown] using h_old)

/-- Every call of an adapter is for a context that was loaded. -/
theorem Deployment.Run.called_loaded {clock : Instant} {directory : Directory} {ls : Schedule}
    {c : State} (h : d.Run clock directory ls c) {claim : ClaimedDelivery} {r : Delivery}
    (h_called : .adapterCalled p claim r ∈ c.world.history) :
    .contextLoaded p claim (some r) ∈ c.world.history := by
  refine h.always (P := fun w => .adapterCalled p claim r ∈ w.history →
    .contextLoaded p claim (some r) ∈ w.history) (by simp [World.initial])
    (fun w w' hS hP hM h_new => hM.history_extends.subset ?_) h_called
  by_cases h_old : .adapterCalled p claim r ∈ w.history
  · exact hP h_old
  · obtain ⟨q, h_effect⟩ := hM.recorded h_new h_old
    exact h_effect.adapter_called h_new h_old

/-- **A delivery is decided once.** -/
theorem deliveries_decidedOnce {clock : Instant} {directory : Directory} {ls : Schedule} {c : State}
    (h : d.Run clock directory ls c) :
    -- a settled delivery stays as it is
    (∀ ls' c', surroundings.run c ls' = some c' → ∀ r ∈ c.world.deliveries.committed,
      r.status = .delivered ∨ r.status = .failedTerminal →
      (∃ r' ∈ c'.world.deliveries.committed, r'.id = r.id) ∧
      ∀ r' ∈ c'.world.deliveries.committed, r'.id = r.id → r'.status = r.status ∧
        r'.attemptCount = r.attemptCount ∧ r'.deliveredAt = r.deliveredAt ∧
        r'.providerMessageId = r.providerMessageId) ∧
    -- a token finalizes at most once
    (∀ token, c.world.history.countP (Event.finalizes token) ≤ 1) ∧
    -- a worker that has lost its row changes nothing
    (∀ l c', surroundings.step c l = some c' → ∀ p claim applied,
      c'.world.history = c.world.history ++ [.deliveryFinalized p claim applied] →
      (∀ r ∈ c.world.deliveries.committed, r.heldBy claim = false) →
      applied = false ∧
        c'.world = { c.world with working := c'.world.working, history := c'.world.history }) ∧
    -- an adapter is called for a row that was held when its context was loaded
    (∀ p claim r, .adapterCalled p claim r ∈ c.world.history →
      ∃ ls₀ l ls₁ c₀ c₁, ls = ls₀ ++ l :: ls₁ ∧ d.Run clock directory ls₀ c₀ ∧
        surroundings.step c₀ l = some c₁ ∧
        .contextLoaded p claim (some r) ∉ c₀.world.history ∧
        .contextLoaded p claim (some r) ∈ c₁.world.history ∧
        r ∈ c₀.world.deliveries.committed ∧ r.id = claim.deliveryId ∧ r.status = .processing ∧
        r.claimToken = some claim.claimToken) := by
  refine ⟨fun ls' c' h' r hr h_settled => ?_, h.tokens.once, fun l c' h_step p claim applied
    h_event h_lost => ?_, fun p claim r h_called => ?_⟩
  · obtain ⟨r₁, hr₁, h_follows⟩ := (h.deliveries_follow h').mem hr
    refine ⟨⟨r₁, hr₁, h_follows.id⟩, fun r' hr' h_id => ?_⟩
    have hS' := Deployment.Run.sound (Machine.run_trans h h')
    rw [hS'.committed_delivery_eq hr' hr₁ (h_id.trans h_follows.id.symm)]
    exact h_follows.settled h_settled
  · obtain ⟨q, h_effect⟩ := (h.move h_step).appended h_event
    exact h_effect.finalize_lost h_event h_lost
  · obtain ⟨ls₀, l, ls₁, c₀, c₁, h_split, h_run, h_step, -, h_old, h_new⟩ :=
      Machine.exists_moment (P := fun c => .contextLoaded p claim (some r) ∈ c.world.history)
        (by simp [Deployment.start, World.initial]) h (h.called_loaded h_called)
    obtain ⟨q, h_effect⟩ := (Deployment.Run.move h_run h_step).recorded h_new h_old
    obtain ⟨h_mem, h_held⟩ := h_effect.context_loaded h_new h_old
    exact ⟨ls₀, l, ls₁, c₀, c₁, h_split, h_run, h_step, h_old, h_new, h_mem,
      Delivery.heldBy_iff.mp h_held⟩

/-- Two workers, the second of which takes over the delivery of the first. -/
def takeoverDeployment : Deployment := .ofCalls id [
  .createNotification ⟨3600000000⟩ "orders" (.toAll [.web] postInit_web) none,
  .consume {} "consumer" (.requested 50 10),
  .processDueDeliveries ⟨[.web], none, "slow", 60000000, 30000000⟩ 10,
  .processDueDeliveries ⟨[.web], none, "fast", 60000000, 30000000⟩ 10]

/-- The slow worker's adapter answers after its lease has run out and the fast
worker has delivered. -/
def takeoverSchedule : Schedule := [
  .run 0 (.time (.ofInstant 0)), .run 0 .go, .run 0 (.fresh 10), .run 0 (.fresh 11),
  .run 1 .go, .run 1 (.time (.ofInstant 0)), .run 1 .go, .run 1 .go, .run 1 .go,
  .run 1 (.fresh 21), .run 1 .go, .run 1 .go, .run 1 (.fresh 22), .run 1 .go, .run 1 .go,
  .run 2 (.time (.ofInstant 0)), .run 2 (.claim [] [31]), .run 2 .go, .run 2 .go,
  .run 3 (.time (.ofInstant 60000001)), .run 3 (.claim [] [41]), .run 3 .go, .run 3 .go,
  .run 3 (.adapter (.ok ⟨.delivered, none, none, none⟩)), .run 3 (.fresh 43),
  .run 2 (.adapter (.error "TimeoutError")), .run 2 .go]

theorem deliveries_takeover :
    ∃ c, takeoverDeployment.Run 0 (.ofUsers [1] (by decide)) takeoverSchedule c ∧
      c.world.deliveries.committed.map (fun r => (r.status, r.attemptCount)) =
        [(.delivered, 1)] ∧
      .deliveryFinalized 2 ⟨22, 31⟩ false ∈ c.world.history ∧
      .deliveryFinalized 3 ⟨22, 41⟩ true ∈ c.world.history ∧
      (∀ token, c.world.history.countP (Event.finalizes token) ≤ 1) ∧
      ∀ ls' c', surroundings.run c ls' = some c' → ∀ r ∈ c.world.deliveries.committed,
        r.status = .delivered ∨ r.status = .failedTerminal →
        ∃ r' ∈ c'.world.deliveries.committed, r'.id = r.id := by
  obtain ⟨c, h_run, h_rows⟩ := takeoverDeployment.exists_run 0 (.ofUsers [1] (by decide))
    takeoverSchedule (fun c => decide (
      c.world.deliveries.committed.map (fun r => (r.status, r.attemptCount)) = [(.delivered, 1)] ∧
      .deliveryFinalized 2 ⟨22, 31⟩ false ∈ c.world.history ∧
      .deliveryFinalized 3 ⟨22, 41⟩ true ∈ c.world.history)) (by decide +kernel)
  obtain ⟨h_status, h_lost, h_done⟩ := of_decide_eq_true h_rows
  obtain ⟨h_settled, h_once, -, -⟩ := deliveries_decidedOnce h_run
  exact ⟨c, h_run, h_status, h_lost, h_done, h_once,
    fun ls' c' h' r hr h_r => (h_settled ls' c' h' r hr h_r).1⟩

end NotificationBroker
