import NotificationBroker.Framework.Prog

/-!
# Rules for programs that run alone

`Prog.Ends p Q m w`: whenever `p` runs the program `m` alone from the store `w` to its
end, whatever the environment chooses, the outcome and the final store satisfy `Q`.
The rules follow the program, action by action.
-/

namespace Interleave

namespace Prog

/-- A program followed by its own result is that program, and sequencing is associative. -/
instance {Pid Choice Store : Type} : LawfulMonad (Prog Pid Choice Store) :=
  LawfulMonad.mk' (Prog Pid Choice Store)
    (fun m => by
      induction m with
      | ret a => rfl
      | act f k ih => exact congrArg (act f) (funext fun r => ih r))
    (fun _ _ => rfl)
    (fun m g h => by
      induction m with
      | ret a => rfl
      | act f k ih => exact congrArg (act f) (funext fun r => ih r))

variable {Pid Choice Store α β : Type} {p : Pid} {Q Q' : α → Store → Prop} {w : Store}

/-- Every complete run of the program from `w` ends with `Q`. -/
def Ends (p : Pid) (Q : α → Store → Prop) (m : Prog Pid Choice Store α) (w : Store) : Prop :=
  ∀ is a w', m.exec p is w = some (a, w') → Q a w'

theorem Ends.ret {a : α} (h : Q a w) : Ends p Q (ret a : Prog Pid Choice Store α) w := by
  intro is a' w' h_run
  obtain ⟨-, rfl, rfl⟩ := exec_ret h_run
  exact h

theorem Ends.act {f : Pid → Choice → Store → Option (β × Store)}
    {k : β → Prog Pid Choice Store α}
    (h : ∀ i r w', f p i w = some (r, w') → Ends p Q (k r) w') : Ends p Q (act f k) w := by
  intro is a w'' h_run
  cases is with
  | nil => exact absurd h_run (by simp [exec])
  | cons i is =>
    obtain ⟨⟨r, w'⟩, hf, h_rest⟩ := Option.bind_eq_some_iff.mp h_run
    exact h i r w' hf is a w'' h_rest

/-- Sequencing: the second program starts where the first one ends. -/
theorem Ends.bind {Q : β → Store → Prop} {m : Prog Pid Choice Store α}
    {g : α → Prog Pid Choice Store β} (h : Ends p (fun a w' => Ends p Q (g a) w') m w) :
    Ends p Q (m >>= g) w := by
  intro is b w' h_run
  obtain ⟨is₁, is₂, a, w₁, -, h_first, h_second⟩ := exec_bind h_run
  exact h is₁ a w₁ h_first is₂ b w' h_second

theorem Ends.mono {m : Prog Pid Choice Store α} (h : Ends p Q' m w)
    (h_imp : ∀ a w', Q' a w' → Q a w') : Ends p Q m w :=
  fun is a w' h_run => h_imp a w' (h is a w' h_run)

/-- Sequencing of programs that may raise: an exception of the first one ends the sequence. -/
theorem Ends.bind_raising {ε : Type} {Q : Except ε β → Store → Prop}
    {m : ExceptT ε (Prog Pid Choice Store) α} {g : α → ExceptT ε (Prog Pid Choice Store) β}
    (h : Ends p (fun r w' =>
      match r with
      | .ok a => Ends p Q (g a) w'
      | .error e => Q (.error e) w') m w) :
    Ends p Q (m >>= g : ExceptT ε (Prog Pid Choice Store) β) w := by
  refine Ends.bind (h.mono fun r w' hr => ?_)
  cases r with
  | ok a => exact hr
  | error e => exact Ends.ret hr

end Prog

end Interleave
