import NotificationBroker.Framework.Prog

/-!
# What is read off a run

The result of a process that has ended (`Config.returned`), and what a run collects, part by part
(`Machine.collect_append`).
-/

namespace Interleave

variable {Pid Choice Env Store α : Type}

/-- What the program of a process has returned, if it has ended. -/
def Config.returned (c : Config Pid Choice Store α) (p : Pid) : Option α :=
  match c.prog p with
  | some (.ret a) => some a
  | _ => none

theorem Config.returned_eq {c : Config Pid Choice Store α} {p : Pid} {a : α} :
    c.returned p = some a ↔ c.prog p = some (.ret a) := by
  unfold Config.returned
  split
  next a' h => rw [h, Option.some.injEq, Option.some.injEq, Prog.ret.injEq]
  next h_ne => exact ⟨fun h => absurd h (by simp), fun h => absurd h (h_ne a)⟩

namespace Machine

variable [DecidableEq Pid] {M : Machine Pid Env Store} {c c' : Config Pid Choice Store α}

/-- A run collects what its first part collects, and then what the rest of it does. -/
theorem collect_append {β : Type} {f : Store → Store → List β}
    {ls ls' : List (Label Pid Choice Env)} (h : M.run c ls = some c') :
    M.collect f c (ls ++ ls') = M.collect f c ls ++ M.collect f c' ls' := by
  induction ls generalizing c with
  | nil => cases h; rfl
  | cons l ls ih =>
    obtain ⟨c₁, h_step, h_rest⟩ := run_cons h
    simp only [List.cons_append, collect, h_step, ih h_rest, List.append_assoc]

end Machine

end Interleave
