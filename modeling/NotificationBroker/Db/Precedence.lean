import NotificationBroker.Db.UnitOfWork
import NotificationBroker.Framework.Precedence

/-!
# Precedence in units of work

The rules of `Framework.Precedence` for the statements that programs on the database are built
from.
-/

namespace NotificationBroker

open Interleave Interleave.Prog Python

variable {α : Type} {p : Pid} {A F : World → World → Prop} {Q : α → Prop}

theorem awaits_perform {f : Action α}
    (h : ∀ i w a w', f p i w = some (a, w') → A w w' ∨ (F w w' ∧ Q a)) :
    Prog.Awaits p A F (OnReturn Q) (perform f) := by
  intro i w a w' hf
  exact (h i w a w' hf).imp_right fun h_step => ⟨h_step.1, onReturn_ok h_step.2⟩

theorem awaits_attempt {f : Action (Except PyError α)}
    (h : ∀ i w r w', f p i w = some (r, w') → A w w' ∨ (F w w' ∧ OnReturn Q r)) :
    Prog.Awaits p A F (OnReturn Q) (attempt f) := h

/-- A query changes nothing. -/
theorem awaits_query {f : Pid → World → α} (h : ∀ w, A w w ∨ (F w w ∧ Q (f p w))) :
    Prog.Awaits p A F (OnReturn Q) (query f) := by
  refine awaits_perform fun i w a w' hf => ?_
  obtain ⟨rfl, rfl⟩ := Prod.mk.inj (Option.some.inj hf)
  exact h w

theorem awaits_compute {r : Except PyError α} (h : OnReturn Q r) :
    Prog.Awaits p A F (OnReturn Q) (compute r) := h

theorem awaits_return {a : α} (ha : Q a) :
    Prog.Awaits p A F (OnReturn Q) (pure a : Program α) := onReturn_ok ha

theorem awaits_throw (e : PyError) :
    Prog.Awaits p A F (OnReturn Q) (throw e : Program α) := onReturn_error e

/-- The clock is noted in the history only. -/
theorem awaits_awareUtcNow (h_record : ∀ w event, F w (w.record event)) :
    Prog.Awaits p A F (OnReturn fun _ => True) awareUtcNow := by
  refine awaits_attempt fun i w r w' hf => ?_
  cases i with
  | time value =>
    obtain ⟨-, rfl⟩ := Prod.mk.inj (Option.some.inj hf)
    exact .inr ⟨h_record w _, fun _ _ => trivial⟩
  | _ => exact absurd hf (by simp)

theorem awaits_rollback (h_rollback : ∀ w, F w (w.rollback p)) :
    Prog.Awaits p A F (OnReturn fun _ => True) rollback := by
  refine awaits_perform fun i w _ w' hf => ?_
  obtain ⟨-, rfl⟩ := Prod.mk.inj (Option.some.inj hf)
  exact .inr ⟨h_rollback w, trivial⟩

theorem awaits_unitOfWork {body : Program α} (h_rollback : ∀ w, F w (w.rollback p))
    (h : Prog.Awaits p A F (OnReturn Q) body) :
    Prog.Awaits p A F (OnReturn Q) (unitOfWork body) :=
  Awaits.tryCatch h fun e => Awaits.bind_raising (awaits_rollback h_rollback) fun _ _ =>
    awaits_throw e

end NotificationBroker
