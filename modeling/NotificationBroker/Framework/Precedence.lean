import NotificationBroker.Framework.Keeping

/-!
# What a program does first

`Prog.Awaits p A F Q` follows a program up to its first step in `A`: until then its steps are in
`F`, and if it ends without such a step then its outcome is in `Q`. Nothing is said of what comes
after the step in `A`, and nothing is assumed of the store between two actions, so this holds of
the program in every interleaving: a step of it outside of `F` comes after one in `A`
(`Machine.awaited`).

A step in `A` may be one that does something, such as a commit, or one that finds something out,
such as a query. With an empty `A`, `Awaits` says that all steps are in `F`.

`Prog.DirectlyAfter p A F` asks for more: a step outside of `F` comes directly after one in `A`, so
that the process itself does nothing in between. What the others do there is what an
interleaving may spoil; `Machine.directly_after` gives the two moments of the run.
-/

namespace Interleave

namespace Prog

variable {Pid Choice Store α β ε : Type} {p : Pid} {A F : Store → Store → Prop}

/-- Until its first step in `A`, the steps of `p` are in `F`; without one, it ends in `Q`. -/
def Awaits (p : Pid) (A F : Store → Store → Prop) (Q : α → Prop) : Prog Pid Choice Store α → Prop
  | ret a => Q a
  | act f k => ∀ i w r w', f p i w = some (r, w') → A w w' ∨ (F w w' ∧ (k r).Awaits p A F Q)

theorem Awaits.mono {A' F' : Store → Store → Prop} {Q R : α → Prop}
    {m : Prog Pid Choice Store α} (h : m.Awaits p A F R) (hA : ∀ w w', A w w' → A' w w')
    (hF : ∀ w w', F w w' → F' w w') (hR : ∀ a, R a → Q a) : m.Awaits p A' F' Q := by
  induction m with
  | ret a => exact hR a h
  | act f k ih =>
    intro i w r w' hf
    exact (h i w r w' hf).imp (hA w w') fun h_step => ⟨hF w w' h_step.1, ih r h_step.2⟩

/-- Sequencing: the second program is followed where the first one has not met `A`. -/
theorem Awaits.bind {Q : β → Prop} {R : α → Prop} {m : Prog Pid Choice Store α}
    {g : α → Prog Pid Choice Store β} (h : m.Awaits p A F R)
    (hg : ∀ a, R a → (g a).Awaits p A F Q) : (m >>= g).Awaits p A F Q := by
  induction m with
  | ret a => exact hg a h
  | act f k ih =>
    intro i w r w' hf
    exact (h i w r w' hf).imp_right fun h_step => ⟨h_step.1, ih r h_step.2⟩

/-- Sequencing of programs that may raise. -/
theorem Awaits.bind_raising {Q : β → Prop} {R : α → Prop}
    {m : ExceptT ε (Prog Pid Choice Store) α} {g : α → ExceptT ε (Prog Pid Choice Store) β}
    (h : Prog.Awaits p A F (OnReturn R) m)
    (hg : ∀ a, R a → Prog.Awaits p A F (OnReturn Q) (g a)) :
    Prog.Awaits p A F (OnReturn Q) (m >>= g : ExceptT ε (Prog Pid Choice Store) β) := by
  refine Awaits.bind h fun r hr => ?_
  cases r with
  | ok a => exact hg a (hr a rfl)
  | error e => exact onReturn_error e

/-- A handler is followed like the rest. -/
theorem Awaits.tryCatch {Q : α → Prop} {m : ExceptT ε (Prog Pid Choice Store) α}
    {handler : ε → ExceptT ε (Prog Pid Choice Store) α} (h : Prog.Awaits p A F (OnReturn Q) m)
    (h_handler : ∀ e, Prog.Awaits p A F (OnReturn Q) (handler e)) :
    Prog.Awaits p A F (OnReturn Q)
      (tryCatch m handler : ExceptT ε (Prog Pid Choice Store) α) := by
  refine Awaits.bind h fun r hr => ?_
  cases r with
  | ok a => exact hr
  | error e => exact h_handler e

end Prog

namespace Machine

variable {Pid Choice Env Store α : Type} [DecidableEq Pid] {M : Machine Pid Env Store}
  {c c₀ c₁ : Config Pid Choice Store α} {p : Pid} {A F : Store → Store → Prop} {Q : α → Prop}

/-- One of the steps of a run is a step of `p` in `A`. -/
def Took (M : Machine Pid Env Store) (c : Config Pid Choice Store α)
    (ls : List (Label Pid Choice Env)) (p : Pid) (A : Store → Store → Prop) : Prop :=
  ∃ ls₀ i ls₁ c₀ c₁, ls = ls₀ ++ .run p i :: ls₁ ∧ M.run c ls₀ = some c₀ ∧
    M.step c₀ (.run p i) = some c₁ ∧ A c₀.world c₁.world

theorem Took.cons {l : Label Pid Choice Env} {ls : List (Label Pid Choice Env)}
    (h_step : M.step c l = some c₁) (h : M.Took c₁ ls p A) : M.Took c (l :: ls) p A := by
  obtain ⟨ls₀, i, ls₁, c₂, c₃, rfl, h_before, h_moment⟩ := h
  exact ⟨l :: ls₀, i, ls₁, c₂, c₃, rfl, Option.bind_eq_some_iff.mpr ⟨c₁, h_step, h_before⟩,
    h_moment⟩

/-- What is left of a program is followed until it has met `A`. -/
theorem awaits_run {ls : List (Label Pid Choice Env)} {m : Prog Pid Choice Store α}
    (h_run : M.run c ls = some c₀) (hp : c.prog p = some m) (h_awaits : m.Awaits p A F Q) :
    M.Took c ls p A ∨ ∀ m', c₀.prog p = some m' → m'.Awaits p A F Q := by
  induction ls generalizing c m with
  | nil =>
    cases h_run
    exact .inr fun m' hp' => Option.some.inj (hp.symm.trans hp') ▸ h_awaits
  | cons l ls ih =>
    obtain ⟨c', h_first, h_rest⟩ := run_cons h_run
    rcases prog_cases h_first hp with ⟨β, f, k, i, r, rfl, rfl, hf, hp'⟩ | ⟨-, hp'⟩ | h_none
    · rcases h_awaits i _ r _ hf with hA | ⟨-, h_left⟩
      · exact .inl ⟨[], i, ls, c, c', rfl, rfl, h_first, hA⟩
      · exact (ih h_rest hp' h_left).imp_left (.cons h_first)
    · exact (ih h_rest hp' h_awaits).imp_left (.cons h_first)
    · -- nothing is left of a process that has crashed
      exact .inr fun m' hp' => absurd ((run_none h_rest h_none).symm.trans hp') (by simp)

/-- **Precedence in a run**: a step of `p` is in `F`, unless it is in `A` itself or comes after a
step of `p` in `A`. -/
theorem awaited {ls : List (Label Pid Choice Env)} {i : Choice} {m : Prog Pid Choice Store α}
    (h_run : M.run c ls = some c₀) (hp : c.prog p = some m) (h_awaits : m.Awaits p A F Q)
    (h_step : M.step c₀ (.run p i) = some c₁) :
    M.Took c ls p A ∨ A c₀.world c₁.world ∨ F c₀.world c₁.world := by
  refine (awaits_run h_run hp h_awaits).imp_right fun h_left => ?_
  obtain ⟨β, f, k, r, w, hp₀, hf, rfl⟩ := step_run h_step
  exact (h_left _ hp₀ i _ r w hf).imp_right And.left

/-- **Precedence in a result**: a process whose outcome is not in `Q` has taken a step in `A`. -/
theorem awaited_result {ls : List (Label Pid Choice Env)} {m : Prog Pid Choice Store α} {a : α}
    (h_run : M.run c ls = some c₀) (hp : c.prog p = some m) (h_awaits : m.Awaits p A F Q)
    (h_ret : c₀.prog p = some (.ret a)) : M.Took c ls p A ∨ Q a :=
  (awaits_run h_run hp h_awaits).imp_right fun h_left => h_left _ h_ret

/-- A program all of whose steps are in `F` takes no others in a run. -/
theorem step_of_awaits {ls : List (Label Pid Choice Env)} {i : Choice}
    {m : Prog Pid Choice Store α} (h_run : M.run c ls = some c₀) (hp : c.prog p = some m)
    (h_awaits : m.Awaits p (fun _ _ => False) F Q) (h_step : M.step c₀ (.run p i) = some c₁) :
    F c₀.world c₁.world := by
  rcases awaited h_run hp h_awaits h_step with ⟨_, _, _, _, _, -, -, -, hA⟩ | hA | hF
  · exact hA.elim
  · exact hA.elim
  · exact hF

end Machine

/-! ### Directly before -/

namespace Prog

variable {Pid Choice Store α : Type}

/-- A step of `p` outside of `F` comes directly after one in `A`. The step before the program, if
there is one, is in `A` if `ready` holds. -/
def DirectlyAfter (p : Pid) (A F : Store → Store → Prop) :
    Prop → Prog Pid Choice Store α → Prop
  | _, ret _ => True
  | ready, act f k => ∀ i w r w', f p i w = some (r, w') →
      (ready ∨ F w w') ∧ (k r).DirectlyAfter p A F (A w w')

end Prog

namespace Machine

variable {Pid Choice Env Store α : Type} [DecidableEq Pid] {M : Machine Pid Env Store}
  {c c₀ c₁ : Config Pid Choice Store α} {p : Pid} {A F : Store → Store → Prop} {ready : Prop}

/-- The last step of `p` in the run is one in `A`. -/
def LastTook (M : Machine Pid Env Store) (c : Config Pid Choice Store α)
    (ls : List (Label Pid Choice Env)) (p : Pid) (A : Store → Store → Prop) : Prop :=
  ∃ ls₀ i ls₁ c₀ c₁, ls = ls₀ ++ .run p i :: ls₁ ∧ (∀ j, .run p j ∉ ls₁) ∧
    M.run c ls₀ = some c₀ ∧ M.step c₀ (.run p i) = some c₁ ∧ A c₀.world c₁.world

theorem LastTook.cons {l : Label Pid Choice Env} {ls : List (Label Pid Choice Env)}
    (h_step : M.step c l = some c₁) (h : M.LastTook c₁ ls p A) : M.LastTook c (l :: ls) p A := by
  obtain ⟨ls₀, i, ls₁, c₂, c₃, rfl, h_quiet, h_before, h_moment⟩ := h
  exact ⟨l :: ls₀, i, ls₁, c₂, c₃, rfl, h_quiet,
    Option.bind_eq_some_iff.mpr ⟨c₁, h_step, h_before⟩, h_moment⟩

/-- What is left of a program knows whether its last step was in `A`. -/
theorem directlyAfter_run {ls : List (Label Pid Choice Env)} {m m' : Prog Pid Choice Store α}
    (h_run : M.run c ls = some c₀) (hp : c.prog p = some m) (h : m.DirectlyAfter p A F ready)
    (hp' : c₀.prog p = some m') :
    ((∀ i, .run p i ∉ ls) ∧ m'.DirectlyAfter p A F ready) ∨
      ∃ ready', m'.DirectlyAfter p A F ready' ∧ (ready' → M.LastTook c ls p A) := by
  induction ls generalizing c m ready with
  | nil =>
    cases h_run
    obtain rfl := Option.some.inj (hp.symm.trans hp')
    exact .inl ⟨fun i => List.not_mem_nil, h⟩
  | cons l ls ih =>
    obtain ⟨c', h_first, h_rest⟩ := run_cons h_run
    rcases prog_cases h_first hp with ⟨β, f, k, i, r, rfl, rfl, hf, h_next⟩ | ⟨h_other, h_next⟩ |
      h_none
    · refine .inr ?_
      rcases ih h_rest h_next (h i _ r _ hf).2 with ⟨h_quiet, h_left⟩ | ⟨ready', h_left, h_took⟩
      · -- this is the last step of the process
        exact ⟨_, h_left, fun hA => ⟨[], i, ls, c, c', rfl, h_quiet, rfl, h_first, hA⟩⟩
      · exact ⟨ready', h_left, fun h_ready => (h_took h_ready).cons h_first⟩
    · refine (ih h_rest h_next h).imp (fun ⟨h_quiet, h_left⟩ => ⟨fun i h_mem => ?_, h_left⟩)
        fun ⟨ready', h_left, h_took⟩ =>
          ⟨ready', h_left, fun h_ready => (h_took h_ready).cons h_first⟩
      rcases List.mem_cons.mp h_mem with h_eq | h_mem
      · exact h_other i h_eq.symm
      · exact h_quiet i h_mem
    · -- nothing is left of a process that has crashed
      exact absurd ((run_none h_rest h_none).symm.trans hp') (by simp)

/-- **The step before.** If a step of `p` is not in `F`, then the last step of `p` before it is
in `A`. -/
theorem directly_after {ls : List (Label Pid Choice Env)} {i : Choice}
    {m : Prog Pid Choice Store α} (h_run : M.run c ls = some c₀) (hp : c.prog p = some m)
    (h : m.DirectlyAfter p A F False) (h_step : M.step c₀ (.run p i) = some c₁) :
    F c₀.world c₁.world ∨ M.LastTook c ls p A := by
  obtain ⟨β, f, k, r, w, hp₀, hf, rfl⟩ := step_run h_step
  rcases directlyAfter_run h_run hp h hp₀ with ⟨-, h_left⟩ | ⟨ready, h_left, h_took⟩
  · exact .inl ((h_left i _ r w hf).1.resolve_left id)
  · exact (h_left i _ r w hf).1.symm.imp_right h_took

end Machine

end Interleave
