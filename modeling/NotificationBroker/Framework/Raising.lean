import Mathlib.Data.List.Basic

/-!
# Computations that may raise

Inversion of `Except` computations: a sequence returns if each of its parts does.
-/

namespace Raising

variable {ε α β : Type}

/-- A sequence that returns: both parts do. -/
theorem bind_eq_ok {x : Except ε α} {f : α → Except ε β} {b : β} :
    (x >>= f) = .ok b ↔ ∃ a, x = .ok a ∧ f a = .ok b := by
  cases x with
  | ok a => exact ⟨fun h => ⟨a, rfl, h⟩, fun ⟨_, h_eq, h⟩ => Except.ok.inj h_eq ▸ h⟩
  | error e => exact ⟨fun h => absurd h (by simp [bind, Except.bind]), fun ⟨_, h, _⟩ => nomatch h⟩

/-- A loop that returns: every turn of it does. -/
theorem forM_eq_ok {f : α → Except ε Unit} {items : List α} :
    items.forM f = .ok () ↔ ∀ a ∈ items, f a = .ok () := by
  induction items with
  | nil => exact ⟨fun _ _ h => absurd h List.not_mem_nil, fun _ => rfl⟩
  | cons a items ih =>
    rw [List.forM_eq_forM] at ih ⊢
    rw [List.forM_cons, bind_eq_ok, List.forall_mem_cons, ← ih]
    exact ⟨fun ⟨_, h, h_rest⟩ => ⟨h, h_rest⟩, fun ⟨h, h_rest⟩ => ⟨(), h, h_rest⟩⟩

end Raising
