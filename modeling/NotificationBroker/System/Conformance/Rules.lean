import NotificationBroker.System.Contract

/-!
# Proof rules for calls

`Meets d p m Q w`: run by `p` from the world `w` on, in which `p` has not finished
yet, the program `m` has no effects but those of `System.Effects`, whatever the
other calls do in between, and ends with `Q`. The rules follow the way programs
are built: a statement and what comes after it, a computation in memory, the
sequence of two programs, a unit of work.
-/

namespace NotificationBroker

open Interleave Python
open ReadCommitted (Table)

/-- The program `m` of `p` meets the contract and ends with `Q`. -/
def Meets {α : Type} (d : Deployment) (p : Pid) (m : Program α)
    (Q : Except PyError α → World → Prop) (w : World) : Prop :=
  Running p w → (contract d).Safe p Q m w

/-- An assertion the other calls cannot invalidate. -/
def Stable (p : Pid) (P : World → Prop) : Prop :=
  ∀ w w', Relies p w w' → Sound w' → P w → P w'

variable {α β : Type} {d : Deployment} {p : Pid} {w : World}

theorem running_stable : Stable p (Running p) := fun _ _ hR _ hK => hR.running hK

theorem running_rollback (hK : Running p w) (q : Pid) : Running p (w.rollback q) :=
  ⟨hK.notifications, hK.invocations⟩

/-- An effect of a running call leaves it running. -/
theorem Effect.running {w' : World} (hS : Sound w) (h : Effect d p w w') (hK : Running p w) :
    Running p w' := by
  obtain ⟨ids, h_fresh, h_issued⟩ := h.issued
  have h_old : ∀ id, id ∈ w.issued.map Prod.fst → (id, p) ∉ w.issued → (id, p) ∉ w'.issued := by
    intro id h_gen h_not h_mem
    rw [h_issued, World.issue, List.mem_append, List.mem_map] at h_mem
    rcases h_mem with h_mem | ⟨id', h_mem, h_eq⟩
    · exact h_not h_mem
    · obtain rfl : id' = id := congrArg Prod.fst h_eq
      exact h_fresh.2 id' h_mem h_gen
  -- neither a notification nor an audit row takes an identifier of a running call
  constructor
  · intro n hn
    have h_id := List.mem_map_of_mem (f := Notification.id) hn
    rw [h.notification_ids] at h_id
    obtain ⟨m, hm, h_eq⟩ := List.mem_map.mp h_id
    rw [← h_eq]
    refine h_old m.id (hS.notifications.generated m.id ?_) (hK.notifications m hm)
    exact List.mem_map_of_mem (Table.mem_rows_of_committed hm)
  · intro a ha
    rw [h.invocations] at ha
    exact h_old a.id (hS.invocations.generated a.id (List.mem_map_of_mem ha)) (hK.invocations a ha)

namespace Meets

variable {Q : Except PyError β → World → Prop}

/-- A statement `f` that does not raise, followed by `g`. -/
theorem perform {f : Action α} {g : α → Program β}
    (h : ∀ w', Relies p w w' → Sound w' → ∀ i a w'', f p i w' = some (a, w'') →
      Effect d p w' w'' ∧ (Sound w'' → Meets d p (g a) Q w'')) :
    Meets d p (NotificationBroker.perform f >>= g) Q w := by
  intro hK w' hR hS
  refine ⟨hR.running hK, fun i a w'' hf => ?_⟩
  obtain ⟨h_effect, h_rest⟩ := h w' hR hS i a w'' hf
  exact ⟨.effect h_effect, h_rest (h_effect.sound hS) (h_effect.running hS (hR.running hK))⟩

/-- A statement `f` that may raise, followed by `g`. -/
theorem attempt {f : Action (Except PyError α)} {g : α → Program β}
    (h : ∀ w', Relies p w w' → Sound w' → ∀ i r w'', f p i w' = some (r, w'') →
      Effect d p w' w'' ∧ (Sound w'' → match r with
        | .ok a => Meets d p (g a) Q w''
        | .error e => Meets d p (throw e) Q w'')) :
    Meets d p (NotificationBroker.attempt f >>= g) Q w := by
  intro hK w' hR hS
  refine ⟨hR.running hK, fun i r w'' hf => ?_⟩
  obtain ⟨h_effect, h_rest⟩ := h w' hR hS i r w'' hf
  refine ⟨.effect h_effect, ?_⟩
  have hK' := h_effect.running hS (hR.running hK)
  cases r with
  | ok a => exact h_rest (h_effect.sound hS) hK'
  | error e => exact h_rest (h_effect.sound hS) hK'

/-- A query changes nothing: what is known is what it returned. -/
theorem query {f : Pid → World → α} {g : α → Program β}
    (h : ∀ w', Relies p w w' → Sound w' → Meets d p (g (f p w')) Q w') :
    Meets d p (NotificationBroker.query f >>= g) Q w := by
  refine perform fun w' hR hS i a w'' hf => ?_
  simp only [Option.some.injEq, Prod.mk.injEq] at hf
  obtain ⟨rfl, rfl⟩ := hf
  exact ⟨.nothing, fun _ => h w' hR hS⟩

/-- A computation in memory. -/
theorem compute {r : Except PyError α} {g : α → Program β}
    (h_ok : ∀ a, r = .ok a → Meets d p (g a) Q w)
    (h_error : ∀ e, r = .error e → Meets d p (throw e) Q w) :
    Meets d p (NotificationBroker.compute r >>= g) Q w := by
  cases r with
  | ok a => exact h_ok a rfl
  | error e => exact h_error e rfl

theorem pure {a : β}
    (h : ∀ w', Relies p w w' → Sound w' → Running p w' → Q (.ok a) w') :
    Meets d p (Pure.pure a) Q w :=
  fun hK w' hR hS => h w' hR hS (hR.running hK)

theorem throw {e : PyError}
    (h : ∀ w', Relies p w w' → Sound w' → Running p w' → Q (.error e) w') :
    Meets d p (MonadExcept.throw e : Program β) Q w :=
  fun hK w' hR hS => h w' hR hS (hR.running hK)

/-- The sequence of two programs: the first ends where the second starts. -/
theorem bind (hS : Sound w) {m : Program α} {g : α → Program β}
    (h : Meets d p m (fun r w' => match r with
      | .ok a => Running p w' ∧ Meets d p (g a) Q w'
      | .error e => Running p w' ∧ Meets d p (MonadExcept.throw e : Program β) Q w') w) :
    Meets d p (m >>= g) Q w := by
  intro hK
  refine Contract.Safe.bind (contract_discipline d) hS ?_
  refine (h hK).mono fun r w' hS' h_post => ?_
  cases r with
  | ok a => exact h_post.2 h_post.1
  | error e => exact h_post.2 h_post.1

theorem mono {m : Program β} {Q' : Except PyError β → World → Prop}
    (h : Meets d p m Q w) (h_imp : ∀ r w, Sound w → Q r w → Q' r w) : Meets d p m Q' w :=
  fun hK => (h hK).mono h_imp

/-- Identifiers stay generated by whom they were. -/
theorem generated {m : Program β} {ids : List UUID} (h : Meets d p m Q w)
    (h_ids : ∀ id ∈ ids, (id, p) ∈ w.issued) :
    Meets d p m (fun r w => Q r w ∧ ∀ id ∈ ids, (id, p) ∈ w.issued) w := by
  intro hK
  refine (h hK).frame (fun w w' hR h_ids id h_mem => Relies.issued_mem hR (h_ids id h_mem))
    (fun w w' h_acts h_ids id h_mem => ?_) h_ids
  obtain ⟨new, h_issued⟩ := Acts.issued h_acts
  rw [h_issued]
  exact List.mem_append_left _ (h_ids id h_mem)

/-- A reading of the clock stays read. -/
theorem reading {m : Program β} {now : Instant} (h : Meets d p m Q w)
    (h_reading : w.HasRead p now) :
    Meets d p m (fun r w => Q r w ∧ w.HasRead p now) w := by
  intro hK
  exact (h hK).frame (fun w w' hR h_reading => Relies.hasRead hR h_reading)
    (fun w w' h_acts h_reading => h_reading.mono (Acts.history_extends h_acts)) h_reading

/-- What others do before the program starts is accounted for. -/
theorem stable {m : Program β} {w' : World} (h : Meets d p m Q w) (hK : Running p w)
    (hR : Relies p w w') : Meets d p m Q w' :=
  fun _ => Contract.Safe.stable (contract_discipline d) (h hK) hR

/-- The commit that ends a call, and the result it is returned with. -/
theorem finish {f : Action α} {result : α → β} (hQ : ∀ r, Stable p (Q r))
    (h : ∀ w', Relies p w w' → Sound w' → Running p w' → ∀ i a w'', f p i w' = some (a, w'') →
      Finish d p w' w'' ∧ (Sound w'' → Q (.ok (result a)) w'')) :
    Meets d p (NotificationBroker.perform f >>= fun a => Pure.pure (result a)) Q w := by
  intro hK w' hR hS
  refine ⟨hR.running hK, fun i a w'' hf => ?_⟩
  obtain ⟨h_finish, h_post⟩ := h w' hR hS (hR.running hK) i a w'' hf
  exact ⟨.finish h_finish, fun w₃ hR' hS₃ =>
    hQ (.ok (result a)) w'' w₃ hR' hS₃ (h_post (h_finish.sound hS))⟩

/-- The `with` block of a unit of work rolls back when its body raises. -/
theorem unitOfWork (hS : Sound w) {body : Program β} (hQ : ∀ r, Stable p (Q r))
    (h_error : ∀ e w, Q (.error e) w → Running p w ∧ Q (.error e) (w.rollback p))
    (h : Meets d p body Q w) : Meets d p (NotificationBroker.unitOfWork body) Q w := by
  intro hK
  refine Contract.Safe.bind (contract_discipline d) hS ?_
  refine (h hK).mono fun r w' hS' h_post => ?_
  cases r with
  | ok b => exact fun w'' hR hS'' => hQ (.ok b) w' w'' hR hS'' h_post
  | error e =>
    intro w'' hR hS''
    have h_post' := hQ (.error e) w' w'' hR hS'' h_post
    refine ⟨(h_error e w'' h_post').1, fun i u w₃ hf => ?_⟩
    simp only [Option.some.injEq, Prod.mk.injEq] at hf
    obtain ⟨-, rfl⟩ := hf
    refine ⟨.effect .rollback, fun w₄ hR' hS₄ => ?_⟩
    exact hQ (.error e) _ w₄ hR' hS₄ (h_error e w'' h_post').2

/-- A statement `f` that does not raise and is not followed by anything. -/
theorem perform_last {f : Action β} (hQ : ∀ r, Stable p (Q r))
    (h : ∀ w', Relies p w w' → Sound w' → ∀ i b w'', f p i w' = some (b, w'') →
      Effect d p w' w'' ∧ (Running p w'' → Q (.ok b) w'')) :
    Meets d p (NotificationBroker.perform f) Q w := by
  intro hK w' hR hS
  refine ⟨hR.running hK, fun i b w'' hf => ?_⟩
  obtain ⟨h_effect, h_post⟩ := h w' hR hS i b w'' hf
  exact ⟨.effect h_effect, fun w₃ hR' hS₃ =>
    hQ (.ok b) w'' w₃ hR' hS₃ (h_post (h_effect.running hS (hR.running hK)))⟩

/-- A statement `f` that may raise and is not followed by anything. -/
theorem attempt_last {f : Action (Except PyError β)} (hQ : ∀ r, Stable p (Q r))
    (h : ∀ w', Relies p w w' → Sound w' → ∀ i r w'', f p i w' = some (r, w'') →
      Effect d p w' w'' ∧ (Running p w'' → Q r w'')) :
    Meets d p (NotificationBroker.attempt f) Q w := by
  intro hK w' hR hS
  refine ⟨hR.running hK, fun i r w'' hf => ?_⟩
  obtain ⟨h_effect, h_post⟩ := h w' hR hS i r w'' hf
  exact ⟨.effect h_effect, fun w₃ hR' hS₃ =>
    hQ r w'' w₃ hR' hS₃ (h_post (h_effect.running hS (hR.running hK)))⟩

/-- The answer of a call wraps its result. -/
theorem answer {m : Program β} {wrap : β → Answer} {Q' : Outcome → World → Prop} (hS : Sound w)
    (hQ' : ∀ r, Stable p (Q' r)) (h_ok : ∀ b w, Q (.ok b) w → Q' (.ok (wrap b)) w)
    (h_error : ∀ e w, Q (.error e) w → Q' (.error e) w) (h : Meets d p m Q w) :
    Meets d p (m.answer wrap) Q' w := by
  intro hK
  refine Contract.Safe.bind (contract_discipline d) hS ((h hK).mono fun r w' _ h_post => ?_)
  cases r with
  | ok b => exact fun w'' hR hS'' => hQ' _ w' w'' hR hS'' (h_ok b w' h_post)
  | error e => exact fun w'' hR hS'' => hQ' _ w' w'' hR hS'' (h_error e w' h_post)

/-- The clock reading at the start of a call. -/
theorem awareUtcNow {g : Instant → Program β}
    (h : ∀ w' value w'', Relies p w w' → Sound w' → w'' = w'.record (.clockRead p value) →
      Sound w'' → match value.utcoffset with
        | some _ => Meets d p (g value.instant) Q w''
        | none => Meets d p
            (MonadExcept.throw (.valueError "now must be timezone-aware") : Program β) Q w'') :
    Meets d p (NotificationBroker.awareUtcNow >>= g) Q w := by
  refine attempt fun w' hR hS i r w'' hf => ?_
  cases i with
  | time value =>
    simp only [Option.some.injEq, Prod.mk.injEq] at hf
    obtain ⟨h_result, rfl⟩ := hf
    refine ⟨.readClock value, fun hS'' => ?_⟩
    have h_rest := h w' value _ hR hS rfl hS''
    -- the check of the reading raises or returns
    cases h_offset : value.utcoffset with
    | none =>
      rw [h_offset] at h_rest h_result
      rw [← h_result]
      exact h_rest
    | some offset =>
      rw [h_offset] at h_rest h_result
      rw [← h_result]
      exact h_rest
  | _ => exact absurd hf (by simp)

end Meets

/-! ### Rows and their identifiers -/

/-- A delivery `p` has seen is known by its identifier later on. -/
theorem Relies.delivery_of_id {w' : World} (hR : Relies p w w') (hS' : Sound w') {r r' : Delivery}
    (hr : r ∈ w.deliveries.visible p) (hr' : r' ∈ w'.deliveries.committed) (h_id : r'.id = r.id) :
    r'.key = r.key := by
  obtain ⟨r₁, hr₁, h_key⟩ := hR.visible_deliveries hr
  have h_id₁ : r₁.id = r.id := congrArg Prod.fst h_key
  rw [hS'.delivery_eq (Table.mem_rows_of_committed hr') (Table.mem_rows_of_visible hr₁)
    (h_id.trans h_id₁.symm)]
  exact h_key

end NotificationBroker
