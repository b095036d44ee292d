import NotificationBroker.Framework.Prog

/-!
# What a program has done when it ends in a certain way

Two predicates on the tree of a program, for a set `Q` of outcomes. `Prog.Avoids Q`:
no run of the program ends in `Q`. `Prog.Spares F Q`: in a run that ends in `Q`, every
action is a step that `F` admits; this may be because a step outside of `F` leads to a
rest that avoids `Q`.

Neither refers to what other processes do in between, so both hold of a program in
every interleaving (`Machine.run_avoids`, `Machine.step_of_spares`).
-/

namespace Interleave

namespace Prog

variable {Pid Choice Store α β : Type} {p : Pid}

/-- No run of the program by `p` ends in `Q`. -/
def Avoids (p : Pid) (Q : α → Prop) : Prog Pid Choice Store α → Prop
  | ret a => ¬ Q a
  | act f k => ∀ i w r w', f p i w = some (r, w') → (k r).Avoids p Q

/-- The actions of `p` in a run of the program that ends in `Q` are steps in `F`. -/
def Spares (p : Pid) (F : Store → Store → Prop) (Q : α → Prop) :
    Prog Pid Choice Store α → Prop
  | ret _ => True
  | act f k => ∀ i w r w', f p i w = some (r, w') →
    (F w w' ∧ (k r).Spares p F Q) ∨ (k r).Avoids p Q

variable {F : Store → Store → Prop} {Q : β → Prop} {Q' : α → Prop}
  {m : Prog Pid Choice Store α} {g : α → Prog Pid Choice Store β}

theorem Avoids.spares (h : m.Avoids p Q') : m.Spares p F Q' := by
  cases m with
  | ret a => trivial
  | act f k => exact fun i w r w' hf => .inr (h i w r w' hf)

/-- Sequencing: what the first program avoids, the second one need not deal with. -/
theorem Avoids.bind (h : m.Avoids p Q') (hg : ∀ a, ¬ Q' a → (g a).Avoids p Q) :
    (m >>= g).Avoids p Q := by
  induction m with
  | ret a => exact hg a h
  | act f k ih => exact fun i w r w' hf => ih r (h i w r w' hf)

theorem Spares.bind (h : m.Spares p F Q') (hg : ∀ a, Q' a → (g a).Spares p F Q)
    (hg' : ∀ a, ¬ Q' a → (g a).Avoids p Q) : (m >>= g).Spares p F Q := by
  induction m with
  | ret a =>
    by_cases ha : Q' a
    · exact hg a ha
    · exact (hg' a ha).spares
  | act f k ih =>
    intro i w r w' hf
    rcases h i w r w' hf with ⟨hF, h_rest⟩ | h_avoids
    · exact .inl ⟨hF, ih r h_rest⟩
    · exact .inr (h_avoids.bind hg')

end Prog

namespace Machine

variable {Pid Choice Env Store α : Type} [DecidableEq Pid] {M : Machine Pid Env Store}
  {c c' c'' : Config Pid Choice Store α} {p : Pid} {F : Store → Store → Prop} {Q : α → Prop}

/-- What a step does to a process that is at `m`: it takes an action of `m`, is left
where it is, or stops for good. -/
theorem prog_cases {l : Label Pid Choice Env} {m : Prog Pid Choice Store α}
    (h : M.step c l = some c') (hp : c.prog p = some m) :
    (∃ (β : Type) (f : Pid → Choice → Store → Option (β × Store))
      (k : β → Prog Pid Choice Store α) (i : Choice) (r : β), l = .run p i ∧ m = .act f k ∧
      f p i c.world = some (r, c'.world) ∧ c'.prog p = some (k r)) ∨
    ((∀ i, l ≠ .run p i) ∧ c'.prog p = some m) ∨ c'.prog p = none := by
  cases l with
  | env e =>
    obtain ⟨w, -, rfl⟩ := step_env h
    exact .inr (.inl ⟨fun i => by simp, hp⟩)
  | crash q =>
    obtain ⟨β, f, k, -, rfl⟩ := step_crash h
    by_cases h_eq : p = q
    · subst h_eq
      exact .inr (.inr (Function.update_self ..))
    · exact .inr (.inl ⟨fun i => by simp, (Function.update_of_ne h_eq ..).trans hp⟩)
  | run q i =>
    obtain ⟨β, f, k, r, w, hq, hf, rfl⟩ := step_run h
    by_cases h_eq : p = q
    · subst h_eq
      -- the turn is that of `p`: it executes the first statement of `m`
      refine .inl ⟨β, f, k, i, r, rfl, ?_, hf, Function.update_self ..⟩
      exact Option.some.inj (hp.symm.trans hq)
    · refine .inr (.inl ⟨fun j h_label => ?_, (Function.update_of_ne h_eq ..).trans hp⟩)
      simp only [Label.run.injEq] at h_label
      exact h_eq h_label.1.symm

/-- A program that avoids `Q` does not end in `Q`, whatever the others do. -/
theorem run_avoids {ls : List (Label Pid Choice Env)} {m : Prog Pid Choice Store α}
    (h : M.run c ls = some c') (hp : c.prog p = some m) (h_avoids : m.Avoids p Q) {a : α}
    (h_ret : c'.prog p = some (.ret a)) : ¬ Q a := by
  induction ls generalizing c m with
  | nil =>
    cases h
    obtain rfl := Option.some.inj (hp.symm.trans h_ret)
    exact h_avoids
  | cons l ls ih =>
    obtain ⟨c₁, h_step, h_run⟩ := run_cons h
    rcases prog_cases h_step hp with
      ⟨β, f, k, i, r, -, rfl, hf, hp₁⟩ | ⟨-, hp₁⟩ | h_none
    · -- a step of the process, a step of another one, a crash
      exact ih h_run hp₁ (h_avoids i _ r _ hf)
    · exact ih h_run hp₁ h_avoids
    · exact absurd ((run_none h_run h_none).symm.trans h_ret) (by simp)

/-- **The steps of a process that ends in `Q`** are in `F`, if its program spares the
others. -/
theorem step_of_spares {ls : List (Label Pid Choice Env)} {m : Prog Pid Choice Store α}
    (h : M.run c ls = some c') (hp : c.prog p = some m) (h_spares : m.Spares p F Q) {a : α}
    (h_ret : c'.prog p = some (.ret a)) (hQ : Q a) {ls₀ ls₁ : List (Label Pid Choice Env)}
    {i : Choice} {c₀ c₁ : Config Pid Choice Store α} (h_eq : ls = ls₀ ++ .run p i :: ls₁)
    (h₀ : M.run c ls₀ = some c₀) (h_step : M.step c₀ (.run p i) = some c₁) :
    F c₀.world c₁.world := by
  induction ls₀ generalizing c m ls with
  | nil =>
    cases h₀
    subst h_eq
    -- the step itself: it spares the world, or the outcome is not the one there is
    have h_run := run_split _ h rfl h_step
    rcases prog_cases h_step hp with
      ⟨β, f, k, j, r, h_label, rfl, hf, hp₁⟩ | ⟨h_ne, -⟩ | h_none
    · rcases h_spares j _ r _ hf with ⟨hF, -⟩ | h_avoids
      · exact hF
      · exact absurd hQ (run_avoids h_run hp₁ h_avoids h_ret)
    · exact absurd rfl (h_ne i)
    · exact absurd ((run_none h_run h_none).symm.trans h_ret) (by simp)
  | cons l ls₀ ih =>
    -- an earlier step: the induction goes on with the program that is left
    obtain ⟨c₂, h₂, h_before⟩ := run_cons h₀
    subst h_eq
    have h_run := run_split [] h rfl h₂
    rcases prog_cases h₂ hp with
      ⟨β, f, k, j, r, -, rfl, hf, hp₁⟩ | ⟨-, hp₁⟩ | h_none
    · rcases h_spares j _ r _ hf with ⟨-, h_rest⟩ | h_avoids
      · exact ih h_run hp₁ h_rest rfl h_before
      · exact absurd hQ (run_avoids h_run hp₁ h_avoids h_ret)
    · exact ih h_run hp₁ h_spares rfl h_before
    · exact absurd ((run_none h_run h_none).symm.trans h_ret) (by simp)

end Machine

end Interleave
