import NotificationBroker.System.Conformance.Rules

/-!
# The delivery workers and the outbox publishers conform

A delivery worker goes through its claims with nothing in hand between two of
them, and finishes a claim under the token it generated for it. A publisher
finalizes what it has claimed, as published only if the broker has accepted it.
Neither commits a notification or records a retry, so that both end as they
started: `Running`.
-/

namespace NotificationBroker

open Interleave Python
open ReadCommitted (Table)

variable {d : Deployment} {p : Pid} {w : World}

/-- A reading is on record. -/
theorem hasRead_record (value : Datetime) :
    (w.record (.clockRead p value)).HasRead p value.instant :=
  ⟨value, by simp [World.readings, World.record], rfl⟩

/-! ### Claims -/

/-- A zipped list pairs elements of its two parts. -/
theorem exists_of_mem_zipWith {α β γ : Type} {f : α → β → γ} {l : List α} {l' : List β} {c : γ}
    (h : c ∈ List.zipWith f l l') : ∃ a ∈ l, ∃ b ∈ l', c = f a b := by
  rw [← List.map_uncurry_zip_eq_zipWith] at h
  obtain ⟨⟨a, b⟩, h_mem, rfl⟩ := List.mem_map.mp h
  exact ⟨a, (List.of_mem_zip h_mem).1, b, (List.of_mem_zip h_mem).2, rfl⟩

/-- The claims of a batch carry its tokens, one each. -/
theorem map_zipWith_tokens {α γ : Type} {f : α → UUID → γ} {token : γ → UUID}
    (hf : ∀ a t, token (f a t) = t) {l : List α} {tokens : List UUID}
    (h_length : tokens.length = l.length) : (List.zipWith f l tokens).map token = tokens := by
  rw [List.map_zipWith]
  simp only [hf]
  rw [← List.map_uncurry_zip_eq_zipWith]
  exact List.map_snd_zip h_length.le

theorem mem_dueDeliveries {rows : List Delivery} {now : Instant} {limit : ℕ}
    {channels : Option (List Channel)} {skipped : List UUID} {r : Delivery}
    (h : r ∈ dueDeliveries rows now limit channels skipped) :
    r ∈ rows ∧ r.due now channels = true ∧ r.id ∉ skipped := by
  have h_mem := (List.mem_insertionSort _).mp (List.mem_of_mem_take h)
  simpa only [List.mem_filter, decide_eq_true_eq] using h_mem

theorem mem_dueEvents {rows : List OutboxEvent} {now : Instant} {limit : ℕ} {skipped : List UUID}
    {e : OutboxEvent} (h : e ∈ dueEvents rows now limit skipped) :
    e ∈ rows ∧ e.publishable now = true ∧ e.id ∉ skipped := by
  have h_mem := (List.mem_insertionSort _).mp (List.mem_of_mem_take h)
  simpa only [List.mem_filter, decide_eq_true_eq] using h_mem

/-! ### The delivery worker -/

theorem getClaimedDelivery_some {rows : List Delivery} {claim : ClaimedDelivery} {r : Delivery}
    (h : getClaimedDelivery rows claim = some r) : r ∈ rows ∧ r.heldBy claim = true :=
  ⟨List.mem_of_find?_eq_some h, (List.find?_some h :)⟩

theorem getClaimedDelivery_none {rows : List Delivery} {claim : ClaimedDelivery}
    (h : getClaimedDelivery rows claim = none) : ∀ r ∈ rows, r.heldBy claim = false :=
  fun r hr => Bool.eq_false_iff.mpr (List.find?_eq_none.mp h r hr)

/-- `p` has the delivery of `claim` in hand, and its adapter is not running. -/
structure InHand (p : Pid) (claim : ClaimedDelivery) (w : World) : Prop where
  working : ∃ x, w.workingOf p = [x] ∧ x.claim = claim ∧ x.stage ≠ .sending
  token : (claim.claimToken, p) ∈ w.issued

theorem inHand_stable (claim : ClaimedDelivery) : Stable p (InHand p claim) := by
  rintro w w' hR _ ⟨⟨x, h_own, h_claim, h_stage⟩, h_token⟩
  exact ⟨⟨x, hR.working.trans h_own, h_claim, h_stage⟩, hR.issued_mem h_token⟩

theorem workingOf_advance_self {stage : Stage} {x : Working} (h : w.workingOf p = [x]) :
    (DeliveryWorker.advance p stage w).workingOf p = [{ x with stage := stage }] := by
  have h_map : (DeliveryWorker.advance p stage w).workingOf p =
      (w.workingOf p).map fun y => { y with stage := stage } := by
    unfold World.workingOf DeliveryWorker.advance
    induction w.working with
    | nil => rfl
    | cons y l ih => by_cases h_pid : y.pid = p <;> simp_all
  rw [h_map, h, List.map_singleton]

theorem workingOf_putDown_self : (DeliveryWorker.putDown p w).workingOf p = [] := by
  unfold World.workingOf DeliveryWorker.putDown
  rw [List.filter_filter]
  simp

theorem deliver_meets (worker : DeliveryWorker) {x : Working} {delivery : Delivery}
    (h_own : w.workingOf p = [x]) (h_stage : x.stage = .loaded)
    (h_token : (x.claim.claimToken, p) ∈ w.issued)
    (h_loaded : .contextLoaded p x.claim (some delivery) ∈ w.history) :
    Meets d p (worker.deliver x.claim delivery)
      (fun r w => Running p w ∧ (∃ outcome, r = .ok outcome) ∧ InHand p x.claim w) w := by
  -- without an adapter the claim stays in hand as it is
  have h_stay : ∀ {w'}, Relies p w w' → InHand p x.claim w' := fun hR =>
    ⟨⟨x, hR.working.trans h_own, rfl, by rw [h_stage]; simp⟩, hR.issued_mem h_token⟩
  unfold DeliveryWorker.deliver
  split
  · exact .pure fun w' hR _ hK => ⟨hK, ⟨_, rfl⟩, h_stay hR⟩
  split
  · refine Meets.perform fun w₁ hR₁ _ i _ w₂ hf => ?_
    simp only [Option.some.injEq, Prod.mk.injEq] at hf
    obtain ⟨-, rfl⟩ := hf
    -- the call of the adapter begins with one step and ends with another
    have h_own₁ := hR₁.working.trans h_own
    refine ⟨.beginSend x delivery h_own₁ h_stage (hR₁.history.subset h_loaded), fun _ => ?_⟩
    refine Meets.perform_last (fun r w w' hR hS h =>
      ⟨hR.running h.1, h.2.1, inHand_stable _ w w' hR hS h.2.2⟩) fun w₃ hR₃ _ i outcome w₄ hf => ?_
    have h_own₃ : w₃.workingOf p = [{ x with stage := .sending }] :=
      hR₃.working.trans (workingOf_advance_self h_own₁)
    have h_token₃ := hR₃.issued_mem (hR₁.issued_mem h_token)
    obtain rfl : w₄ = DeliveryWorker.advance p .sent w₃ := by
      cases i with
      | adapter reply =>
        cases reply <;>
        · simp only [Option.some.injEq, Prod.mk.injEq] at hf
          exact hf.2.symm
      | _ => exact absurd hf (by simp)
    refine ⟨.endSend _ h_own₃ rfl, fun hK => ⟨hK, ⟨outcome, rfl⟩, ⟨_, workingOf_advance_self h_own₃,
      rfl, by simp⟩, h_token₃⟩⟩
  · exact .pure fun w' hR _ hK => ⟨hK, ⟨_, rfl⟩, h_stay hR⟩

theorem finalizeClaimedDelivery_meets (worker : DeliveryWorker) {claim : ClaimedDelivery}
    {limit : ℤ} (outcome : DeliveryOutcome) (now : Instant)
    (h_call : d.calls p = .processDueDeliveries worker limit) (h_reading : w.HasRead p now)
    (hS : Sound w) (h : InHand p claim w) :
    Meets d p (worker.finalizeClaimedDelivery claim outcome now)
      (fun _ w => Running p w ∧ w.workingOf p = []) w := by
  have h_stable : ∀ r : Except PyError Bool,
      Stable p ((fun _ w => Running p w ∧ w.workingOf p = []) r) :=
    fun _ _ _ hR _ h => ⟨hR.running h.1, hR.working.trans h.2⟩
  refine Meets.unitOfWork hS h_stable
    (fun _ _ h => ⟨h.1, running_rollback h.1 p, h.2⟩) ?_
  refine Meets.attempt_last h_stable fun w₁ hR₁ hS₁ i r w₂ hf => ?_
  obtain ⟨⟨x, h_own, rfl, h_stage⟩, h_token⟩ := inHand_stable claim w w₁ hR₁ hS₁ h
  unfold DeliveryWorker.commitOutcome at hf
  split at hf
  next h_find =>
    simp only [Option.some.injEq, Prod.mk.injEq] at hf
    obtain ⟨-, rfl⟩ := hf
    -- the delivery is no longer held: nothing is written
    exact ⟨.missDelivery x.claim (getClaimedDelivery_none h_find),
      fun hK => ⟨hK, workingOf_putDown_self⟩⟩
  next delivery h_find =>
    obtain ⟨h_mem, h_held⟩ := getClaimedDelivery_some h_find
    cases i with
    | fresh attemptId =>
      simp only [Option.ite_none_right_eq_some] at hf
      obtain ⟨h_fresh, hf⟩ := hf
      split at hf
      next h_checks =>
        simp only [Option.some.injEq, Prod.mk.injEq] at hf
        obtain ⟨-, rfl⟩ := hf
        exact ⟨.finalizeDelivery x outcome now worker.retryDelay delivery attemptId h_own h_stage
          h_token h_mem h_held h_checks.1 (Bool.eq_false_iff.mpr h_checks.2) h_fresh
          (congrArg Call.part h_call) ⟨worker, limit, h_call, rfl⟩ (hR₁.hasRead h_reading),
          fun hK => ⟨hK, workingOf_putDown_self⟩⟩
      next h_checks =>
        simp only [Option.some.injEq, Prod.mk.injEq] at hf
        obtain ⟨-, rfl⟩ := hf
        -- a constraint refuses the row or its attempt, and the transaction is rolled back
        exact ⟨.dropDelivery x outcome now worker.retryDelay delivery attemptId h_mem h_held
          h_checks, fun hK => ⟨hK, workingOf_putDown_self⟩⟩
    | _ => exact absurd hf (by simp)

/-- By induction on the claims: between two of them the worker has nothing in
hand, and it has generated the tokens of those that are left. -/
theorem processClaims_meets (worker : DeliveryWorker) {limit : ℤ} (now : Instant)
    (h_call : d.calls p = .processDueDeliveries worker limit) (claims : List ClaimedDelivery)
    (hS : Sound w) (h_idle : w.workingOf p = []) (h_reading : w.HasRead p now)
    (h_tokens : ∀ token ∈ claims.map ClaimedDelivery.claimToken, (token, p) ∈ w.issued) :
    Meets d p (worker.processClaims now claims) (fun _ => Running p) w := by
  induction claims generalizing w with
  | nil => exact .pure fun _ _ _ hK => hK
  | cons claim claims ih =>
    have h_token := h_tokens claim.claimToken List.mem_cons_self
    have h_rest : ∀ token ∈ claims.map ClaimedDelivery.claimToken, (token, p) ∈ w.issued :=
      fun token h_mem => h_tokens token (List.mem_cons_of_mem _ h_mem)
    refine Meets.perform fun w₁ hR₁ hS₁ i found w₂ hf => ?_
    have h_idle₁ := hR₁.working.trans h_idle
    have h_rest₁ := fun token h_mem => hR₁.issued_mem (h_rest token h_mem)
    have h_reading₁ := hR₁.hasRead h_reading
    split at hf
    next delivery h_find =>
      simp only [Option.some.injEq, Prod.mk.injEq] at hf
      obtain ⟨rfl, rfl⟩ := hf
      obtain ⟨h_mem, h_held⟩ := getClaimedDelivery_some h_find
      have h_token₁ := hR₁.issued_mem h_token
      refine ⟨.loadContext claim delivery h_idle₁ h_token₁ h_mem h_held, fun hS₂ => ?_⟩
      have h_deliver := deliver_meets (d := d) worker (x := ⟨p, claim, w₁.clock, .loaded⟩)
        (w := { w₁.record (.contextLoaded p claim (some delivery)) with
          working := w₁.working ++ [⟨p, claim, w₁.clock, .loaded⟩] })
        (by
          simp only [World.workingOf, List.filter_append]
          rw [World.workingOf] at h_idle₁
          simp [h_idle₁])
        rfl h_token₁ (List.mem_append_right _
          (List.mem_singleton_self (Event.contextLoaded p claim (some delivery))))
      refine Meets.bind hS₂ (((h_deliver.generated h_rest₁).reading (h_reading₁.record _)).mono
        fun r w₃ hS₃ h₃ => ?_)
      -- the claim is in hand while the adapter is called
      obtain ⟨⟨⟨hK₃, ⟨outcome, rfl⟩, h_hand⟩, h_rest₃⟩, h_reading₃⟩ := h₃
      refine ⟨hK₃, Meets.bind hS₃ ((((finalizeClaimedDelivery_meets worker outcome now h_call
        h_reading₃ hS₃ h_hand).generated h_rest₃).reading h_reading₃).mono fun r w₄ hS₄ h₄ => ?_)⟩
      -- and put down when its outcome has been recorded, before the next one
      obtain ⟨⟨⟨hK₄, h_idle₄⟩, h_rest₄⟩, h_reading₄⟩ := h₄
      cases r with
      | error e => exact ⟨hK₄, .throw fun _ _ _ hK => hK⟩
      | ok finalized =>
        refine ⟨hK₄, Meets.bind hS₄ ((ih hS₄ h_idle₄ h_reading₄ h_rest₄).mono fun r w₅ _ hK₅ => ?_)⟩
        cases r with
        | error e => exact ⟨hK₅, .throw fun _ _ _ hK => hK⟩
        | ok processed => exact ⟨hK₅, .pure fun _ _ _ hK => hK⟩
    next h_find =>
      simp only [Option.some.injEq, Prod.mk.injEq] at hf
      obtain ⟨rfl, rfl⟩ := hf
      exact ⟨.missContext claim (getClaimedDelivery_none h_find), fun hS₂ =>
        ih hS₂ h_idle₁ (h_reading₁.record _) h_rest₁⟩

theorem processDueDeliveries_meets (worker : DeliveryWorker) (limit : ℤ)
    (h_call : d.calls p = .processDueDeliveries worker limit) (h_idle : w.workingOf p = []) :
    Meets d p (worker.processDueDeliveries limit) (fun _ => Running p) w := by
  refine Meets.awareUtcNow fun w₁ value w₂ hR₁ hS₁ h_w₂ hS₂ => ?_
  have h_idle₂ : w₂.workingOf p = [] := by
    rw [h_w₂]
    exact hR₁.working.trans h_idle
  have h_reading₂ : w₂.HasRead p value.instant := h_w₂ ▸ hasRead_record value
  split
  next =>
    -- the loop, for whatever has been claimed
    have h_loop : ∀ {w : World} (claims : List ClaimedDelivery), Sound w → w.workingOf p = [] →
        w.HasRead p value.instant →
        (∀ token ∈ claims.map ClaimedDelivery.claimToken, (token, p) ∈ w.issued) →
        Meets d p (do
          let processedCount ← worker.processClaims value.instant claims
          return (⟨claims.length, processedCount⟩ : DeliveryWorkerResult))
          (fun _ => Running p) w := fun claims hS h_idle h_reading h_tokens =>
      Meets.bind hS ((processClaims_meets worker value.instant h_call claims hS h_idle h_reading
        h_tokens).mono
        fun r w' _ hK' => by
          cases r with
          | error e => exact ⟨hK', .throw fun _ _ _ hK => hK⟩
          | ok processed => exact ⟨hK', .pure fun _ _ _ hK => hK⟩)
    unfold claimDueDeliveries
    split
    next => exact h_loop [] hS₂ h_idle₂ h_reading₂ fun _ h => absurd h List.not_mem_nil
    next =>
      refine Meets.perform fun w₃ hR₃ hS₃ i claims w₄ hf => ?_
      cases i with
      | claim skipped tokens =>
        simp only [Option.ite_none_right_eq_some, Option.some.injEq, Prod.mk.injEq] at hf
        obtain ⟨⟨h_fresh, h_length⟩, rfl, rfl⟩ := hf
        have h_reading₃ := hR₃.hasRead h_reading₂
        refine ⟨.claimDeliveries _ _ _ _ tokens _ h_fresh (map_zipWith_tokens (fun _ _ => rfl)
          h_length) (fun c hc => ?_) (congrArg Call.part h_call) h_reading₃
          ⟨worker, limit, h_call, rfl⟩, fun hS₄ => ?_⟩
        · -- every claim is of a row that is due, under a fresh token
          obtain ⟨r, hr, token, -, rfl⟩ := exists_of_mem_zipWith hc
          obtain ⟨h_mem, h_due, -⟩ := mem_dueDeliveries hr
          exact ⟨r, h_mem, rfl, h_due⟩
        · refine h_loop _ hS₄ (hR₃.working.trans h_idle₂)
            (h_reading₃.record _) fun token h_mem => ?_
          obtain ⟨c, hc, rfl⟩ := List.mem_map.mp h_mem
          obtain ⟨r, -, token, h_token, rfl⟩ := exists_of_mem_zipWith hc
          exact List.mem_append_right _ (List.mem_map_of_mem h_token)
      | _ => exact absurd hf (by simp)
  next => exact .throw fun _ _ _ hK => hK

/-! ### The outbox publisher -/

/-- A publisher's claims are copies of the rows, which keep their messages. -/
def Copies (claims : List ClaimedOutboxEvent) (rows : List OutboxEvent) : Prop :=
  ∀ c ∈ claims, ∃ e ∈ rows, c = .ofRow e c.claimToken

theorem Copies.grows {claims : List ClaimedOutboxEvent} {rows rows' : List OutboxEvent}
    (h : Copies claims rows) (h_grows : ReadCommitted.Grows OutboxEvent.SameMessage rows rows') :
    Copies claims rows' := by
  intro c hc
  obtain ⟨e, he, h_copy⟩ := h c hc
  obtain ⟨e', he', h_same⟩ := h_grows.mem he
  exact ⟨e', he', h_copy.trans (h_same.message _).symm⟩

/-- The finalization of a claim and what comes after it. -/
theorem finalizeEvent_meets {β : Type} {Q : Except PyError β → World → Prop}
    {publisher : OutboxPublisher} {limit : ℤ}
    (h_call : d.calls p = .publishDueEvents publisher limit) {claim : ClaimedOutboxEvent}
    {claims : List ClaimedOutboxEvent} {now : Instant} {errorMessage : Option String}
    {g : Option OutboxEventStatus → Program β} (h_copies : Copies (claim :: claims) w.outbox)
    (h_reading : w.HasRead p now)
    (h_accepted : errorMessage = none → OutboxPublisher.kafkaRecord claim ∈ w.accepted)
    (h_rest : ∀ w' status, Sound w' → Copies claims w'.outbox → w'.HasRead p now →
      Meets d p (g status) Q w') :
    Meets d p (publisher.finalizeEvent claim now errorMessage >>= g) Q w := by
  refine Meets.perform fun w₁ hR₁ hS₁ i status w₂ hf => ?_
  have h_copies₁ := h_copies.grows hR₁.outbox
  have h_claims : Copies claims w₁.outbox := fun c hc => h_copies₁ c (List.mem_cons_of_mem claim hc)
  have h_reading₁ := hR₁.hasRead h_reading
  split at hf
  next h_find =>
    simp only [Option.some.injEq, Prod.mk.injEq] at hf
    obtain ⟨rfl, rfl⟩ := hf
    -- the event is no longer held: nothing is written
    refine ⟨.missEvent claim fun e he => Bool.eq_false_iff.mpr (List.find?_eq_none.mp h_find e he),
      fun hS₂ => h_rest _ _ hS₂ h_claims (h_reading₁.record _)⟩
  next e h_find =>
    simp only [Option.some.injEq, Prod.mk.injEq] at hf
    obtain ⟨rfl, rfl⟩ := hf
    have h_effect : Effect d p w₁ _ := .finalizeEvent publisher claim now errorMessage e
      ⟨limit, h_call⟩ (h_copies₁ claim List.mem_cons_self) (List.mem_of_find?_eq_some h_find)
      (List.find?_some h_find :) (fun h_none => hR₁.accepted.subset (h_accepted h_none)) h_reading₁
    exact ⟨h_effect, fun hS₂ => h_rest _ _ hS₂ (h_claims.grows h_effect.outbox)
      (h_reading₁.record _)⟩

/-- By induction on the claims: each is a copy of its row. -/
theorem publishClaims_meets {publisher : OutboxPublisher} {limit : ℤ}
    (h_call : d.calls p = .publishDueEvents publisher limit) (now : Instant)
    (claims : List ClaimedOutboxEvent) (counts : ℕ × ℕ × ℕ) (h_copies : Copies claims w.outbox)
    (h_reading : w.HasRead p now) :
    Meets d p (publisher.publishClaims now claims counts) (fun _ => Running p) w := by
  induction claims generalizing w counts with
  | nil => exact .pure fun _ _ _ hK => hK
  | cons claim claims ih =>
    refine Meets.perform fun w₁ hR₁ hS₁ i error w₂ hf => ?_
    have h_copies₁ := h_copies.grows hR₁.outbox
    have h_reading₁ := hR₁.hasRead h_reading
    cases i with
    | ack =>
      simp only [Option.some.injEq, Prod.mk.injEq] at hf
      obtain ⟨rfl, rfl⟩ := hf
      -- the broker has accepted the record, so the event is recorded as published
      refine ⟨.publish claim true, fun _ => finalizeEvent_meets h_call h_copies₁ h_reading₁
        (fun _ => ?_) fun w' status _ h h_reading => ih _ h h_reading⟩
      exact List.mem_append_right _ (List.mem_singleton_self _)
    | nack accepted message =>
      simp only [Option.some.injEq, Prod.mk.injEq] at hf
      obtain ⟨rfl, rfl⟩ := hf
      -- the publisher has seen an error, whether the broker has accepted the record or not
      exact ⟨.publish claim accepted, fun _ => finalizeEvent_meets h_call h_copies₁ h_reading₁
        (by simp) fun w' status _ h h_reading => ih _ h h_reading⟩
    | _ => exact absurd hf (by simp)

theorem publishDueEvents_meets {publisher : OutboxPublisher} {limit : ℤ}
    (h_call : d.calls p = .publishDueEvents publisher limit) :
    Meets d p (publisher.publishDueEvents limit) (fun _ => Running p) w := by
  refine Meets.awareUtcNow fun w₁ value w₂ _ _ h_w₂ hS₂ => ?_
  have h_reading₂ : w₂.HasRead p value.instant := h_w₂ ▸ hasRead_record value
  split
  next =>
    -- the loop, for whatever has been claimed
    have h_loop : ∀ {w : World} (claims : List ClaimedOutboxEvent), Sound w →
        Copies claims w.outbox → w.HasRead p value.instant →
        Meets d p (do
          let counts ← publisher.publishClaims value.instant claims (0, 0, 0)
          return (⟨claims.length, counts.1, counts.2.1, counts.2.2⟩ : OutboxPublisherResult))
          (fun _ => Running p) w := fun claims hS h_copies h_reading =>
      Meets.bind hS ((publishClaims_meets h_call value.instant claims (0, 0, 0) h_copies
        h_reading).mono fun r w' _ hK' => by
          cases r with
          | error e => exact ⟨hK', .throw fun _ _ _ hK => hK⟩
          | ok counts => exact ⟨hK', .pure fun _ _ _ hK => hK⟩)
    unfold claimDueEvents
    split
    next => exact h_loop [] hS₂ (fun _ h => absurd h List.not_mem_nil) h_reading₂
    next =>
      refine Meets.perform fun w₃ hR₃ hS₃ i claims w₄ hf => ?_
      cases i with
      | claim skipped tokens =>
        simp only [Option.ite_none_right_eq_some, Option.some.injEq, Prod.mk.injEq] at hf
        obtain ⟨⟨h_fresh, h_length⟩, rfl, rfl⟩ := hf
        have h_reading₃ := hR₃.hasRead h_reading₂
        -- every claim is a copy of an event that is publishable, under a fresh token
        have h_claims : ∀ c ∈ List.zipWith ClaimedOutboxEvent.ofRow
            (dueEvents w₃.outbox value.instant limit.toNat skipped) tokens,
            ∃ e ∈ w₃.outbox, e.publishable value.instant ∧ c = .ofRow e c.claimToken := by
          intro c hc
          obtain ⟨e, he, token, -, rfl⟩ := exists_of_mem_zipWith hc
          obtain ⟨h_mem, h_due, -⟩ := mem_dueEvents he
          exact ⟨e, h_mem, h_due, rfl⟩
        have h_effect : Effect d p w₃ _ := .claimEvents value.instant
          (value.instant + publisher.leaseDuration) publisher.workerId tokens _ h_fresh
          (map_zipWith_tokens (fun _ _ => rfl) h_length) h_claims (congrArg Call.part h_call)
          h_reading₃
        refine ⟨h_effect, fun hS₄ =>
          h_loop _ hS₄ (Copies.grows (fun c hc => ?_) h_effect.outbox) h_reading₃⟩
        obtain ⟨e, he, -, h_copy⟩ := h_claims c hc
        exact ⟨e, he, h_copy⟩
      | _ => exact absurd hf (by simp)
  next => exact .throw fun _ _ _ hK => hK

end NotificationBroker
