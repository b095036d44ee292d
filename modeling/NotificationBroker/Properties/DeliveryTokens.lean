import NotificationBroker.System.Verified

/-!
# Claim tokens

Every claim of a delivery generates a token, and a worker acts on the row only
under its token. `Tokens` is the invariant that ties the two together: a token is
on at most one row, and a token that has finalized its row is on none. Tokens
never come back, since the ones a claim generates are fresh.
-/

namespace NotificationBroker

open Interleave Python
open ReadCommitted (Table)
open DeliveryWorker (recordOutcome)

/-- The event is a finalization under `token` that changed its row. -/
def Event.finalizes (token : UUID) : Event → Bool
  | .deliveryFinalized _ claim true => claim.claimToken = token
  | _ => false

/-- What is known of the tokens on rows and of those that have been used up. -/
structure Tokens (w : World) : Prop where
  pending : ∀ p, ∀ r ∈ w.deliveries.own p, r.Initial
  generated : ∀ r ∈ w.deliveries.committed, ∀ token, r.claimToken = some token →
    ¬ w.Fresh token
  distinct : ∀ r ∈ w.deliveries.committed, ∀ r' ∈ w.deliveries.committed, ∀ token,
    r.claimToken = some token → r'.claimToken = some token → r.id = r'.id
  used : ∀ e ∈ w.history, ∀ token, e.finalizes token → ¬ w.Fresh token ∧
    ∀ r ∈ w.deliveries.committed, r.claimToken ≠ some token
  once : ∀ token, w.history.countP (Event.finalizes token) ≤ 1

variable {d : Deployment} {p : Pid} {w w' : World}

theorem Delivery.Initial.claimToken {r : Delivery} (h : r.Initial) : r.claimToken = none := by
  obtain ⟨_, _, _, _, _, h_row⟩ := h
  rw [h_row]
  rfl

/-- The tokens that are new on rows after a move: those of `claims`, which are
fresh and different, each on the row it was generated for. -/
def NewTokens (w w' : World) (claims : List ClaimedDelivery) : Prop :=
  (claims.map ClaimedDelivery.claimToken).Nodup ∧
    (∀ c ∈ claims, w.Fresh c.claimToken ∧ ¬ w'.Fresh c.claimToken) ∧
    ∀ r' ∈ w'.deliveries.committed, r'.claimToken = none ∨
      (∃ r ∈ w.deliveries.committed, r.id = r'.id ∧ r.claimToken = r'.claimToken) ∨
      ∃ c ∈ claims, c.deliveryId = r'.id ∧ r'.claimToken = some c.claimToken

/-- Nothing is claimed where the committed rows keep or lose their tokens. -/
theorem newTokens_nil (h : ∀ r' ∈ w'.deliveries.committed, r'.claimToken = none ∨
    ∃ r ∈ w.deliveries.committed, r.id = r'.id ∧ r.claimToken = r'.claimToken) :
    NewTokens w w' [] :=
  ⟨List.nodup_nil, fun _ h => absurd h List.not_mem_nil, fun r' hr' => (h r' hr').imp_right .inl⟩

theorem newTokens_same (h : w'.deliveries.committed = w.deliveries.committed) :
    NewTokens w w' [] :=
  newTokens_nil fun r' hr' => .inr ⟨r', h ▸ hr', rfl, rfl⟩

theorem Acts.newTokens (hT : Tokens w) (h : Acts d p w w') : ∃ claims, NewTokens w w' claims := by
  cases h with
  | finish h =>
    cases h with
    | commitNotification => exact ⟨[], newTokens_same rfl⟩
    | commitRetry requester notificationId eligible skipped requestedAt replayId =>
      -- a replay clears the token
      refine ⟨[], newTokens_nil fun r' hr' => ?_⟩
      obtain ⟨r, hr, rfl⟩ := List.mem_map.mp hr'
      split
      · exact .inl rfl
      · exact .inr ⟨r, hr, rfl, rfl⟩
  | effect h =>
    cases h with
    | commitFanout x service userIds channels recipientCount deliveryCount =>
      -- the rows of a fan-out have never been claimed
      refine ⟨[], newTokens_nil fun r' hr' => ?_⟩
      rcases List.mem_append.mp hr' with hr' | hr'
      · exact .inr ⟨r', hr', rfl, rfl⟩
      · exact .inl (hT.pending p r' hr').claimToken
    | claimDeliveries now lease workerId channels tokens claims h_tokens h_claims h_due =>
      -- the only new tokens: each is fresh, and on the row it was claimed for
      refine ⟨claims, h_claims ▸ h_tokens.1, fun c hc => ?_, fun r' hr' => ?_⟩
      · have h_mem : c.claimToken ∈ tokens := h_claims ▸ List.mem_map_of_mem hc
        refine ⟨h_tokens.2 _ h_mem, fun h_fresh => h_fresh ?_⟩
        simp [World.issue, World.record, h_mem, Function.comp_def]
      · obtain ⟨r, hr, rfl⟩ := List.mem_map.mp hr'
        unfold Delivery.applyClaims
        split
        next c h_find =>
          exact .inr (.inr ⟨c, List.mem_of_find?_eq_some h_find,
            of_decide_eq_true (List.find?_some h_find :), rfl⟩)
        next => exact .inr (.inl ⟨r, hr, rfl, rfl⟩)
    | finalizeDelivery x outcome now retryDelay delivery attemptId =>
      -- an outcome clears the token of the row it is recorded in
      refine ⟨[], newTokens_nil fun r' hr' => ?_⟩
      obtain ⟨r, hr, rfl⟩ := List.mem_map.mp hr'
      split
      · exact .inl rfl
      · exact .inr ⟨r, hr, rfl, rfl⟩
    | markRead deliveryId readAt h_visible =>
      refine ⟨[], newTokens_nil fun r' hr' => ?_⟩
      obtain ⟨r, hr, rfl⟩ := List.mem_map.mp hr'
      refine .inr ⟨r, hr, ?_⟩
      split <;> exact ⟨rfl, rfl⟩
    | _ => exact ⟨[], newTokens_same rfl⟩

/-- An action finalizes under a token only if the token's row is held under it,
and then the row loses it. -/
theorem Acts.finalized (h : Acts d p w w') : ∃ new, w'.history = w.history ++ new ∧
    ((∀ e ∈ new, ∀ token, e.finalizes token = false) ∨
    ∃ claim, new = [.deliveryFinalized p claim true] ∧
      (∃ r ∈ w.deliveries.committed, r.heldBy claim) ∧
      ∀ r' ∈ w'.deliveries.committed, r'.claimToken = none ∨
        (r' ∈ w.deliveries.committed ∧ r'.heldBy claim = false)) := by
  cases h with
  | finish h => exact ⟨[], by rw [h.history, List.append_nil], .inl (by simp)⟩
  | effect h =>
    cases h with
    | finalizeDelivery x outcome now retryDelay delivery attemptId _ _ _ h_mem h_held =>
      refine ⟨_, rfl, .inr ⟨x.claim, rfl, ⟨delivery, h_mem, h_held⟩, fun r' hr' => ?_⟩⟩
      -- the row with the token lets go of it, the others never had it
      obtain ⟨r, hr, rfl⟩ := List.mem_map.mp hr'
      split
      next => exact .inl rfl
      next h_not => exact .inr ⟨hr, Bool.eq_false_iff.mpr h_not⟩
    | readClock | finalizeEvent | missEvent | commitFanout | claimDeliveries | loadContext
    | missContext | beginSend | missDelivery | markRead =>
      exact ⟨_, rfl, .inl (by simp [Event.finalizes])⟩
    | _ => exact ⟨[], (List.append_nil _).symm, .inl (by simp)⟩

/-! ### The invariant -/

theorem Tokens.initial (clock : Instant) (directory : Directory) :
    Tokens (World.initial clock directory) where
  pending _ _ h := absurd h List.not_mem_nil
  generated _ h := absurd h List.not_mem_nil
  distinct _ h := absurd h List.not_mem_nil
  used _ h := absurd h List.not_mem_nil
  once _ := Nat.zero_le _

/-- New tokens are not on any row, and none of them has been used. -/
theorem Tokens.step (hS : Sound w) (hT : Tokens w) (h : Acts d p w w')
    (h_pending : ∀ q, ∀ r ∈ w'.deliveries.own q, r.Initial) : Tokens w' := by
  obtain ⟨claims, h_nodup, h_claims, h_rows⟩ := h.newTokens hT
  have h_fresh : ∀ {token}, ¬ w.Fresh token → ¬ w'.Fresh token := fun h_not h_new =>
    h_not (h.fresh h_new)
  -- a token that was generated before is on a row only if it was on that row before
  have h_old : ∀ r' ∈ w'.deliveries.committed, ∀ token, r'.claimToken = some token →
      ¬ w.Fresh token → ∃ r ∈ w.deliveries.committed, r.id = r'.id ∧ r.claimToken = some token := by
    intro r' hr' token h_token h_not
    rcases h_rows r' hr' with h_none | ⟨r, hr, h_id, h_same⟩ | ⟨c, hc, -, h_new⟩
    · exact absurd (h_none.symm.trans h_token) (by simp)
    · exact ⟨r, hr, h_id, h_same.trans h_token⟩
    · obtain rfl := Option.some.inj (h_new.symm.trans h_token)
      exact absurd (h_claims c hc).1 h_not
  have h_generated : ∀ r' ∈ w'.deliveries.committed, ∀ token, r'.claimToken = some token →
      ¬ w'.Fresh token := by
    intro r' hr' token h_token
    rcases h_rows r' hr' with h_none | ⟨r, hr, -, h_same⟩ | ⟨c, hc, -, h_new⟩
    · exact absurd (h_none.symm.trans h_token) (by simp)
    · exact h_fresh (hT.generated r hr token (h_same.trans h_token))
    · obtain rfl := Option.some.inj (h_new.symm.trans h_token)
      exact (h_claims c hc).2
  obtain ⟨new, h_history, h_finalized⟩ := h.finalized
  refine ⟨h_pending, h_generated, ?_, ?_, ?_⟩
  · intro r₁ hr₁ r₂ hr₂ token h₁ h₂
    by_cases h_not : w.Fresh token
    · rcases h_rows r₁ hr₁ with h_none | ⟨r, hr, -, h_same⟩ | ⟨c₁, hc₁, h_id₁, h_new₁⟩
      · exact absurd (h_none.symm.trans h₁) (by simp)
      · exact absurd h_not (hT.generated r hr token (h_same.trans h₁))
      · rcases h_rows r₂ hr₂ with h_none | ⟨r, hr, -, h_same⟩ | ⟨c₂, hc₂, h_id₂, h_new₂⟩
        · exact absurd (h_none.symm.trans h₂) (by simp)
        · exact absurd h_not (hT.generated r hr token (h_same.trans h₂))
        · have h_tokens : c₁.claimToken = c₂.claimToken :=
            (Option.some.inj (h_new₁.symm.trans h₁)).trans
              (Option.some.inj (h_new₂.symm.trans h₂)).symm
          rw [← h_id₁, ← h_id₂, List.inj_on_of_nodup_map h_nodup hc₁ hc₂ h_tokens]
    · obtain ⟨r, hr, h_id, h_r⟩ := h_old r₁ hr₁ token h₁ h_not
      obtain ⟨r', hr', h_id', h_r'⟩ := h_old r₂ hr₂ token h₂ h_not
      rw [← h_id, ← h_id', hT.distinct r hr r' hr' token h_r h_r']
  · intro e he token h_e
    rw [h_history] at he
    rcases List.mem_append.mp he with he | he
    · obtain ⟨h_not, h_none⟩ := hT.used e he token h_e
      refine ⟨h_fresh h_not, fun r' hr' h_token => ?_⟩
      obtain ⟨r, hr, -, h_r⟩ := h_old r' hr' token h_token h_not
      exact h_none r hr h_r
    · rcases h_finalized with h_other | ⟨claim, rfl, ⟨r, hr, h_held⟩, h_gone⟩
      · exact absurd h_e (by rw [h_other e he token]; simp)
      · obtain rfl := List.mem_singleton.mp he
        obtain rfl : claim.claimToken = token := of_decide_eq_true h_e
        obtain ⟨h_id, h_status, h_token⟩ := Delivery.heldBy_iff.mp h_held
        refine ⟨h_fresh (hT.generated r hr _ h_token), fun r' hr' h_token' => ?_⟩
        rcases h_gone r' hr' with h_none | ⟨hr'_old, h_not_held⟩
        · exact absurd (h_none.symm.trans h_token') (by simp)
        · -- the only row with this token is the one that was held
          obtain rfl : r' = r := hS.committed_delivery_eq hr'_old hr
            (hT.distinct r' hr'_old r hr _ h_token' h_token)
          exact absurd h_held (by simp [h_not_held])
  · intro token
    rw [h_history, List.countP_append]
    rcases h_finalized with h_other | ⟨claim, rfl, ⟨r, hr, h_held⟩, -⟩
    · have h_zero : new.countP (Event.finalizes token) = 0 :=
        List.countP_eq_zero.mpr fun e he => by simp [h_other e he token]
      rw [h_zero]
      exact hT.once token
    · by_cases h_token : claim.claimToken = token
      · have h_zero : w.history.countP (Event.finalizes token) = 0 :=
          List.countP_eq_zero.mpr fun e he h_e =>
            (hT.used e he token h_e).2 r hr (h_token ▸ (Delivery.heldBy_iff.mp h_held).2.2)
        rw [h_zero, Nat.zero_add]
        exact List.countP_le_length
      · have h_once := hT.once token
        simpa [List.countP_cons, Event.finalizes, h_token] using h_once

/-- The invariant of runs. -/
theorem Deployment.Run.tokens {clock : Instant} {directory : Directory} {ls : Schedule} {c : State}
    (h : d.Run clock directory ls c) : Tokens c.world := by
  refine h.always (Tokens.initial clock directory) fun w w' hS hT hM => ?_
  have h_pending : ∀ q, ∀ r ∈ w'.deliveries.own q, r.Initial := fun q r hr => by
    obtain ⟨p, h_change⟩ := hM.deliveries hS
    exact (h_change.own_origin hr).elim (hT.pending q r) fun h => h.2.initial
  cases hM with
  | act p h => exact hT.step hS h h_pending
  | env e h =>
    obtain ⟨clock, directory, rfl⟩ := env_apply h
    exact ⟨h_pending, hT.generated, hT.distinct, hT.used, hT.once⟩
  | abort p h =>
    subst h
    exact ⟨h_pending, hT.generated, hT.distinct, hT.used, hT.once⟩

end NotificationBroker
