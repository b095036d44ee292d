import NotificationBroker.Framework.Outcomes
import NotificationBroker.Framework.RelyGuarantee

/-!
# Invariants that depend on the choices

What a program does with a choice of the environment may show in the store only some actions
later, and the effects of its actions do not tell where a value comes from.
`Prog.Keeps p C I Q` follows it through the program: every action, from any store with the
invariant `I` and with a choice that meets `C`, leaves a store with `I`, and what the program ends
with satisfies `Q`. Nothing is assumed of the store between two actions but `I`, so this holds of
the program in every interleaving.

`Config.Verified.kept` puts it together with the contracts of the processes: some keep the
invariant by their programs, under a condition on their choices, and the others by what they
guarantee.
-/

namespace Interleave

namespace Prog

variable {Pid Choice Store α β : Type} {p : Pid} {C : Choice → Prop} {I : Store → Prop}

/-- The actions of `p` keep `I` as long as the choices meet `C`, and the outcome is in `Q`. -/
def Keeps (p : Pid) (C : Choice → Prop) (I : Store → Prop) (Q : α → Prop) :
    Prog Pid Choice Store α → Prop
  | ret a => Q a
  | act f k => ∀ i w r w', C i → I w → f p i w = some (r, w') → I w' ∧ (k r).Keeps p C I Q

theorem Keeps.mono {Q R : α → Prop} {m : Prog Pid Choice Store α} (h : m.Keeps p C I R)
    (h_imp : ∀ a, R a → Q a) : m.Keeps p C I Q := by
  induction m with
  | ret a => exact h_imp a h
  | act f k ih =>
    intro i w r w' h_choice h_inv hf
    obtain ⟨h_inv', h_rest⟩ := h i w r w' h_choice h_inv hf
    exact ⟨h_inv', ih r h_rest⟩

/-- Sequencing: the second program is followed for the outcomes of the first one. -/
theorem Keeps.bind {Q : β → Prop} {R : α → Prop} {m : Prog Pid Choice Store α}
    {g : α → Prog Pid Choice Store β} (h : m.Keeps p C I R)
    (hg : ∀ a, R a → (g a).Keeps p C I Q) : (m >>= g).Keeps p C I Q := by
  induction m with
  | ret a => exact hg a h
  | act f k ih =>
    intro i w r w' h_choice h_inv hf
    obtain ⟨h_inv', h_rest⟩ := h i w r w' h_choice h_inv hf
    exact ⟨h_inv', ih r h_rest⟩

/-! ### Programs that may raise -/

/-- What is returned satisfies `Q`; nothing is said of an exception. -/
def OnReturn {ε : Type} (Q : α → Prop) (r : Except ε α) : Prop := ∀ a, r = .ok a → Q a

theorem onReturn_error {ε : Type} {Q : α → Prop} (e : ε) : OnReturn Q (.error e) :=
  fun _ h => nomatch h

theorem onReturn_ok {ε : Type} {Q : α → Prop} {a : α} (h : Q a) :
    OnReturn Q (.ok a : Except ε α) :=
  fun _ h_eq => Except.ok.inj h_eq ▸ h

/-- Sequencing of programs that may raise. -/
theorem Keeps.bind_raising {ε : Type} {Q : β → Prop} {R : α → Prop}
    {m : ExceptT ε (Prog Pid Choice Store) α} {g : α → ExceptT ε (Prog Pid Choice Store) β}
    (h : Prog.Keeps p C I (OnReturn R) m)
    (hg : ∀ a, R a → Prog.Keeps p C I (OnReturn Q) (g a)) :
    Prog.Keeps p C I (OnReturn Q) (m >>= g : ExceptT ε (Prog Pid Choice Store) β) := by
  refine Keeps.bind h fun r hr => ?_
  cases r with
  | ok a => exact hg a (hr a rfl)
  | error e => exact onReturn_error e

/-- A handler that keeps the invariant, whatever it handles. -/
theorem Keeps.tryCatch {ε : Type} {Q : α → Prop} {m : ExceptT ε (Prog Pid Choice Store) α}
    {handler : ε → ExceptT ε (Prog Pid Choice Store) α} (h : Prog.Keeps p C I (OnReturn Q) m)
    (h_handler : ∀ e, Prog.Keeps p C I (OnReturn Q) (handler e)) :
    Prog.Keeps p C I (OnReturn Q)
      (tryCatch m handler : ExceptT ε (Prog Pid Choice Store) α) := by
  refine Keeps.bind h fun r hr => ?_
  cases r with
  | ok a => exact hr
  | error e => exact h_handler e

end Prog

/-! ### Whole runs -/

section Runs

variable {Pid Choice Env Store α : Type} [DecidableEq Pid] {C : Contract Pid Store}
  {M : Machine Pid Env Store} {Q : Pid → α → Store → Prop} {c c' : Config Pid Choice Store α}
  {S : Pid → Prop} {D : Choice → Prop} {I : Store → Prop} {R : α → Prop}

/-- **Invariants of whole runs, by the programs.** The invariant is kept by the environment and
by crashes, by the programs of the processes in `S` as long as their choices meet `D`, and by
what the other processes guarantee. -/
theorem Config.Verified.kept (hD : C.Discipline M)
    (h_env : ∀ e w w', I w → M.env e w = some w' → I w')
    (h_abort : ∀ p w, I w → I (M.abort p w))
    (h_act : ∀ p w w', ¬ S p → C.Inv w → I w → C.G p w w' → I w')
    {ls : List (Label Pid Choice Env)} (h : c.Verified C Q) (h_start : I c.world)
    (h_keeps : ∀ p m, S p → c.prog p = some m → m.Keeps p D I R)
    (h_run : M.run c ls = some c') (h_choices : ∀ p i, .run p i ∈ ls → D i) : I c'.world := by
  induction ls generalizing c with
  | nil => cases h_run; exact h_start
  | cons l ls ih =>
    obtain ⟨c₁, h_step, h_rest⟩ := Machine.run_cons h_run
    have h_inv : I c₁.world := by
      cases l with
      | env e =>
        obtain ⟨w, h_move, rfl⟩ := Machine.step_env h_step
        exact h_env e _ w h_start h_move
      | crash p =>
        obtain ⟨_, _, _, _, rfl⟩ := Machine.step_crash h_step
        exact h_abort p _ h_start
      | run p i =>
        by_cases hp : S p
        · obtain ⟨_, f, k, r, w, h_prog, hf, rfl⟩ := Machine.step_run h_step
          exact (h_keeps p _ hp h_prog i _ r w (h_choices p i List.mem_cons_self) h_start hf).1
        · exact h_act p _ _ hp h.inv h_start (h.act hD h_step)
    refine ih (h.step hD h_step) h_inv (fun p m hp h_prog => ?_) h_rest
      fun p i h_mem => h_choices p i (List.mem_cons_of_mem _ h_mem)
    -- the programs that are left keep the invariant, too
    cases h_before : c.prog p with
    | none => exact absurd (h_prog.symm.trans (Machine.step_none h_step h_before)) (by simp)
    | some m₀ =>
      have h₀ := h_keeps p m₀ hp h_before
      rcases Machine.prog_cases h_step h_before with
        ⟨_, f, k, i, r, rfl, rfl, hf, h_after⟩ | ⟨-, h_after⟩ | h_none
      · obtain rfl := Option.some.inj (h_after.symm.trans h_prog)
        exact (h₀ i _ r _ (h_choices p i List.mem_cons_self) h_start hf).2
      · exact Option.some.inj (h_after.symm.trans h_prog) ▸ h₀
      · exact absurd (h_prog.symm.trans h_none) (by simp)

end Runs

end Interleave
