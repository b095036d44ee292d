import NotificationBroker.Db.UnitOfWork
import NotificationBroker.Framework.TwoRuns

/-!
# Calls that run alone

The rules of `Prog.Ends` and of `Prog.exec` for programs that raise: what a statement, a query
or a unit of work does when nothing else runs. A program that raises is a sequence in which
every part may be the last, and so the rule for sequencing asks what holds after an exception
as well. The rules of `Prog.Ends₂` do the same for two runs of one program, in two worlds.
-/

namespace NotificationBroker

open Interleave Python

variable {α β : Type} {p : Pid} {w : World}

theorem ends_bind {Q : Except PyError β → World → Prop} {m : Program α} {g : α → Program β}
    (h : Prog.Ends p (fun r w' =>
      match r with
      | .ok a => Prog.Ends p Q (g a) w'
      | .error e => Q (.error e) w') m w) : Prog.Ends p Q (m >>= g : Program β) w := by
  refine Prog.Ends.bind_raising (h.mono fun r w' hr => ?_)
  cases r with
  | ok a => exact hr
  | error e => exact hr

theorem ends_compute {Q : Except PyError β → World → Prop} {result : Except PyError α}
    {g : α → Program β} (h_ok : ∀ a, result = .ok a → Prog.Ends p Q (g a) w)
    (h_error : ∀ e, result = .error e → Q (.error e) w) :
    Prog.Ends p Q (compute result >>= g : Program β) w := by
  cases result with
  | ok a => exact h_ok a rfl
  | error e => exact Prog.Ends.ret (h_error e rfl)

theorem ends_perform {Q : Except PyError α → World → Prop} {f : Action α}
    (h : ∀ i a w', f p i w = some (a, w') → Q (.ok a) w') : Prog.Ends p Q (perform f) w :=
  Prog.Ends.act fun i a w' hf => Prog.Ends.ret (h i a w' hf)

theorem ends_attempt {Q : Except PyError α → World → Prop} {f : Action (Except PyError α)}
    (h : ∀ i r w', f p i w = some (r, w') → Q r w') : Prog.Ends p Q (attempt f) w :=
  Prog.Ends.act fun i r w' hf => Prog.Ends.ret (h i r w' hf)

/-- A statement is one action. -/
theorem exec_perform {f : Action α} {is : List Choice} {r : Except PyError α} {w' : World}
    (h : Prog.exec (perform f) p is w = some (r, w')) :
    ∃ i a, is = [i] ∧ r = .ok a ∧ f p i w = some (a, w') := by
  cases is with
  | nil => exact absurd h (Option.some_ne_none _).symm
  | cons i is =>
    obtain ⟨⟨a, w₁⟩, hf, h_rest⟩ := Option.bind_eq_some_iff.mp h
    obtain ⟨rfl, rfl, rfl⟩ := Prog.exec_ret h_rest
    exact ⟨i, a, rfl, rfl, hf⟩

/-- A query is one action. -/
theorem exec_query {f : Pid → World → α} {is : List Choice} {r : Except PyError α} {w' : World}
    (h : Prog.exec (query f) p is w = some (r, w')) :
    (∃ i, is = [i]) ∧ w' = w ∧ r = .ok (f p w) := by
  obtain ⟨i, a, rfl, rfl, hf⟩ := exec_perform h
  obtain ⟨rfl, rfl⟩ := Prod.mk.inj (Option.some.inj hf)
  exact ⟨⟨i, rfl⟩, rfl, rfl⟩

/-- The clock: a call goes on with an aware reading only. -/
theorem ends_awareUtcNow {Q : Except PyError β → World → Prop} {g : Instant → Program β}
    (h : ∀ value : Datetime, Prog.Ends p Q (g value.instant) (w.record (.clockRead p value)))
    (h_naive : ∀ value : Datetime, Q (.error (.valueError "now must be timezone-aware"))
      (w.record (.clockRead p value))) : Prog.Ends p Q (awareUtcNow >>= g : Program β) w := by
  refine ends_bind (ends_attempt fun i r w' hf => ?_)
  cases i with
  | time value =>
    obtain ⟨rfl, rfl⟩ := Prod.mk.inj (Option.some.inj hf)
    split
    next h_eq =>
      split at h_eq
      · exact absurd h_eq (by simp)
      · exact Except.ok.inj h_eq ▸ h value
    next h_eq =>
      split at h_eq
      · exact Except.error.inj h_eq ▸ h_naive value
      · exact absurd h_eq (by simp)
  | _ => exact absurd hf (by simp)

/-- A query goes on with what it reads. -/
theorem ends_query {Q : Except PyError β → World → Prop} {f : Pid → World → α}
    {g : α → Program β} (h : Prog.Ends p Q (g (f p w)) w) :
    Prog.Ends p Q (query f >>= g : Program β) w := by
  refine ends_bind (m := query f) (ends_perform fun i a w' hf => ?_)
  obtain ⟨rfl, rfl⟩ := Prod.mk.inj (Option.some.inj hf)
  exact h

/-- What holds when the block has ended is not disturbed by rolling back. -/
theorem ends_unitOfWork {Q : Except PyError α → World → Prop} {body : Program α}
    (h_rollback : ∀ e w', Q (.error e) w' → Q (.error e) (w'.rollback p))
    (h : Prog.Ends p Q body w) : Prog.Ends p Q (unitOfWork body) w := by
  refine Prog.Ends.bind (h.mono fun r w' hr => ?_)
  cases r with
  | ok a => exact Prog.Ends.ret hr
  | error e =>
    refine Prog.Ends.act fun i u w'' hf => Prog.Ends.ret ?_
    obtain ⟨-, rfl⟩ := Prod.mk.inj (Option.some.inj hf)
    exact h_rollback e w' hr

/-- The block returns what its body returns; if it raises, the transaction is rolled back. -/
theorem exec_unitOfWork {body : Program α} {is : List Choice} {r : Except PyError α} {w' : World}
    (h : Prog.exec (unitOfWork body) p is w = some (r, w')) :
    (∃ a, r = .ok a ∧ Prog.exec body p is w = some (r, w')) ∨
      ∃ e is₁ i w₁, r = .error e ∧ is = is₁ ++ [i] ∧ Prog.exec body p is₁ w = some (r, w₁) ∧
        w' = w₁.rollback p := by
  obtain ⟨is₁, is₂, r₁, w₁, rfl, h_body, h_rest⟩ := Prog.exec_bind h
  cases r₁ with
  | ok a =>
    obtain ⟨rfl, rfl, rfl⟩ := Prog.exec_ret h_rest
    exact .inl ⟨a, rfl, by rwa [List.append_nil]⟩
  | error e =>
    obtain ⟨is₃, is₄, r₂, w₂, rfl, h_rollback, h_throw⟩ := Prog.exec_bind h_rest
    obtain ⟨i, u, rfl, rfl, hf⟩ := exec_perform h_rollback
    obtain ⟨rfl, rfl⟩ := Prod.mk.inj (Option.some.inj hf)
    obtain ⟨rfl, rfl, rfl⟩ := Prog.exec_ret h_throw
    exact .inr ⟨e, is₁, i, w₁, rfl, by rw [List.append_nil], h_body, rfl⟩

variable {C₁ C₂ : Choice → Prop} {w₁ w₂ : World}

/-- Each run goes on with what it reads. -/
theorem ends₂_query {Q : Except PyError β → World → Except PyError β → World → Prop}
    {f : Pid → World → α} {g : α → Program β}
    (h : Prog.Ends₂ p C₁ C₂ Q (g (f p w₁)) (g (f p w₂)) w₁ w₂) :
    Prog.Ends₂ p C₁ C₂ Q (query f >>= g : Program β) (query f >>= g : Program β) w₁ w₂ := by
  refine Prog.Ends₂.bind_raising
    (Prog.Ends₂.act fun i₁ i₂ r₁ r₂ w₁' w₂' _ _ hf₁ hf₂ => Prog.Ends₂.ret ?_)
  obtain ⟨rfl, rfl⟩ := Prod.mk.inj (Option.some.inj hf₁)
  obtain ⟨rfl, rfl⟩ := Prod.mk.inj (Option.some.inj hf₂)
  exact h

/-- Two clocks that show the same time: both runs go on with it, or both end with the error for
a naive one. -/
theorem ends₂_awareUtcNow {Q : Except PyError β → World → Except PyError β → World → Prop}
    {g : Instant → Program β} {reading : Datetime}
    (h_reading₁ : ∀ value, C₁ (.time value) → value = reading)
    (h_reading₂ : ∀ value, C₂ (.time value) → value = reading)
    (h : Prog.Ends₂ p C₁ C₂ Q (g reading.instant) (g reading.instant)
      (w₁.record (.clockRead p reading)) (w₂.record (.clockRead p reading)))
    (h_naive : ∀ e, Q (.error e) (w₁.record (.clockRead p reading)) (.error e)
      (w₂.record (.clockRead p reading))) :
    Prog.Ends₂ p C₁ C₂ Q (awareUtcNow >>= g : Program β) (awareUtcNow >>= g : Program β)
      w₁ w₂ := by
  refine Prog.Ends₂.bind_raising
    (Prog.Ends₂.act fun i₁ i₂ r₁ r₂ w₁' w₂' h_C₁ h_C₂ hf₁ hf₂ => Prog.Ends₂.ret ?_)
  cases i₁ with
  | time value₁ =>
    cases i₂ with
    | time value₂ =>
      -- both runs get the same reading
      obtain rfl := h_reading₁ value₁ h_C₁
      obtain rfl := h_reading₂ value₂ h_C₂
      obtain ⟨rfl, rfl⟩ := Prod.mk.inj (Option.some.inj hf₁)
      obtain ⟨rfl, rfl⟩ := Prod.mk.inj (Option.some.inj hf₂)
      by_cases h_offset : value₂.utcoffset.isNone
      · simp only [if_pos h_offset]
        exact h_naive _
      · simp only [if_neg h_offset]
        exact h
    | _ => exact absurd hf₂ (by simp)
  | _ => exact absurd hf₁ (by simp)

/-- Rolling back, in either of the worlds, does not disturb what holds when the blocks have
ended. -/
theorem ends₂_unitOfWork {Q : Except PyError α → World → Except PyError α → World → Prop}
    {body : Program α}
    (h_rollback₁ : ∀ r₁ w₁' r₂ w₂', Q r₁ w₁' r₂ w₂' → Q r₁ (w₁'.rollback p) r₂ w₂')
    (h_rollback₂ : ∀ r₁ w₁' r₂ w₂', Q r₁ w₁' r₂ w₂' → Q r₁ w₁' r₂ (w₂'.rollback p))
    (h : Prog.Ends₂ p C₁ C₂ Q body body w₁ w₂) :
    Prog.Ends₂ p C₁ C₂ Q (unitOfWork body) (unitOfWork body) w₁ w₂ := by
  -- each of the two blocks has finished or was rolled back
  intro is₁ is₂ r₁ r₂ w₁' w₂' h_C₁ h_C₂ h_run₁ h_run₂
  obtain ⟨-, -, h_body₁⟩ | ⟨-, js₁, i₁, v₁, -, rfl, h_body₁, rfl⟩ := exec_unitOfWork h_run₁
  · obtain ⟨-, -, h_body₂⟩ | ⟨-, js₂, i₂, v₂, -, rfl, h_body₂, rfl⟩ := exec_unitOfWork h_run₂
    · exact h is₁ is₂ r₁ r₂ w₁' w₂' h_C₁ h_C₂ h_body₁ h_body₂
    · rw [List.forall_mem_append] at h_C₂
      exact h_rollback₂ _ _ _ _ (h is₁ js₂ r₁ r₂ w₁' v₂ h_C₁ h_C₂.1 h_body₁ h_body₂)
  · rw [List.forall_mem_append] at h_C₁
    obtain ⟨-, -, h_body₂⟩ | ⟨-, js₂, i₂, v₂, -, rfl, h_body₂, rfl⟩ := exec_unitOfWork h_run₂
    · exact h_rollback₁ _ _ _ _ (h js₁ is₂ r₁ r₂ v₁ w₂' h_C₁.1 h_C₂ h_body₁ h_body₂)
    · rw [List.forall_mem_append] at h_C₂
      exact h_rollback₁ _ _ _ _ (h_rollback₂ _ _ _ _
        (h js₁ js₂ r₁ r₂ v₁ v₂ h_C₁.1 h_C₂.1 h_body₁ h_body₂))

end NotificationBroker
