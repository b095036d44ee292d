import Mathlib.Data.List.Basic
import Mathlib.Data.List.Induction
import Mathlib.Logic.Function.Basic

/-!
# Programs of atomic actions and their interleavings

A concurrent component is written once, as a `Prog`: a tree of **atomic
actions** on a shared store, each followed by a continuation that depends on the
action's answer. What the program does not determine (a fresh identifier, the
answer of an external service, the rows another transaction holds locked) is a
*choice* the environment supplies with the action.

The same program is read in two ways.

* `Prog.exec` runs it alone, from its first action to its result: the sequential
  meaning.
* `Machine.step` interleaves any number of programs, one atomic action at a
  time, with crashes (a process stops for good and its open work is rolled back
  by `Machine.abort`) and with the environment's own moves (`Machine.env`).

An action that answers `none` is not enabled: the process waits.
-/

namespace Interleave

/-- A program over the store `Store`, run by a process of type `Pid`, whose
actions consume a `Choice` of the environment. `ret a` has finished with the
result `a`; `act f k` performs the atomic action `f` and goes on as `k`. -/
inductive Prog (Pid Choice Store : Type) (α : Type) : Type 1
  | ret (a : α) : Prog Pid Choice Store α
  | act {β : Type} (f : Pid → Choice → Store → Option (β × Store))
      (k : β → Prog Pid Choice Store α) : Prog Pid Choice Store α

namespace Prog

variable {Pid Choice Store α β : Type}

/-- Sequencing: run the first program, then the one its result selects. -/
def bind : Prog Pid Choice Store α → (α → Prog Pid Choice Store β) → Prog Pid Choice Store β
  | ret a, g => g a
  | act f k, g => act f fun r => (k r).bind g

instance : Monad (Prog Pid Choice Store) where
  pure := ret
  bind := bind

/-- The program of a single atomic action, which returns the action's answer. -/
def perform (f : Pid → Choice → Store → Option (β × Store)) : Prog Pid Choice Store β :=
  act f ret

@[simp] theorem pure_eq (a : α) : (pure a : Prog Pid Choice Store α) = ret a := rfl

@[simp] theorem ret_bind (a : α) (g : α → Prog Pid Choice Store β) :
    (ret a >>= g) = g a := rfl

@[simp] theorem act_bind {γ : Type} (f : Pid → Choice → Store → Option (γ × Store))
    (k : γ → Prog Pid Choice Store α) (g : α → Prog Pid Choice Store β) :
    (act f k >>= g) = act f fun r => k r >>= g := rfl

/-- The sequential meaning: the program run alone by `p`, consuming exactly the
given choices. `none` when an action is not enabled or the choices do not fit
the length of the run. -/
def exec : Prog Pid Choice Store α → Pid → List Choice → Store → Option (α × Store)
  | ret a, _, [], w => some (a, w)
  | ret _, _, _ :: _, _ => none
  | act _ _, _, [], _ => none
  | act f k, p, i :: is, w => (f p i w).bind fun rw => (k rw.1).exec p is rw.2

/-- A program that has finished does nothing more. -/
theorem exec_ret {a b : α} {p : Pid} {is : List Choice} {w w' : Store}
    (h : (ret a : Prog Pid Choice Store α).exec p is w = some (b, w')) :
    is = [] ∧ b = a ∧ w' = w := by
  cases is with
  | nil =>
    simp only [exec, Option.some.injEq, Prod.mk.injEq] at h
    exact ⟨rfl, h.1.symm, h.2.symm⟩
  | cons i is => exact absurd h (by simp [exec])

/-- A run of a sequence splits into a run of its first part and one of the rest. -/
theorem exec_bind {m : Prog Pid Choice Store α} {g : α → Prog Pid Choice Store β}
    {p : Pid} {is : List Choice} {w : Store} {b : β} {w' : Store}
    (h : (m >>= g).exec p is w = some (b, w')) :
    ∃ is₁ is₂ a w₁, is = is₁ ++ is₂ ∧ m.exec p is₁ w = some (a, w₁) ∧
      (g a).exec p is₂ w₁ = some (b, w') := by
  induction m generalizing is w with
  | ret a => exact ⟨[], is, a, w, rfl, rfl, h⟩
  | act f k ih =>
    cases is with
    | nil => exact absurd h (by simp [exec])
    | cons i is =>
      rw [act_bind] at h
      obtain ⟨rw, hf, hk⟩ := Option.bind_eq_some_iff.mp h
      -- the first choice goes to the first part, the others as for its continuation
      obtain ⟨is₁, is₂, a, w₁, rfl, hm, hg⟩ := ih rw.1 hk
      refine ⟨i :: is₁, is₂, a, w₁, rfl, ?_, hg⟩
      simp only [exec, hf, Option.bind_some]
      exact hm

/-- A sequential run of a single action is one enabled step of it. -/
theorem exec_perform {f : Pid → Choice → Store → Option (β × Store)} {p : Pid}
    {is : List Choice} {w : Store} {b : β} {w' : Store}
    (h : (perform f).exec p is w = some (b, w')) :
    ∃ i, is = [i] ∧ f p i w = some (b, w') := by
  cases is with
  | nil => exact absurd h (by simp [perform, exec])
  | cons i is =>
    obtain ⟨⟨r, w₁⟩, hf, hk⟩ := Option.bind_eq_some_iff.mp h
    obtain ⟨rfl, rfl, rfl⟩ := exec_ret hk
    exact ⟨i, rfl, hf⟩

end Prog

/-! ### Machines -/

/-- A state of the interleaving: the shared store, and what is left to run of
each process. `none` is a process that crashed. -/
structure Config (Pid Choice Store α : Type) where
  world : Store
  prog : Pid → Option (Prog Pid Choice Store α)

/-- One move of the interleaving: an action of a process, the crash of a
process, or a move of the environment. -/
inductive Label (Pid Choice Env : Type)
  | run (p : Pid) (i : Choice)
  | crash (p : Pid)
  | env (e : Env)

/-- What surrounds the processes: the environment's moves, and what becomes of
the store when a process stops in the middle of its work. -/
structure Machine (Pid Env Store : Type) where
  env : Env → Store → Option Store
  abort : Pid → Store → Store

namespace Machine

variable {Pid Choice Env Store α : Type} [DecidableEq Pid]

/-- One step of the interleaving. Only a process that is still running can act
or crash. -/
def step (M : Machine Pid Env Store) (c : Config Pid Choice Store α) :
    Label Pid Choice Env → Option (Config Pid Choice Store α)
  | .run p i =>
    match c.prog p with
    | some (.act f k) =>
      (f p i c.world).map fun rw => ⟨rw.2, Function.update c.prog p (some (k rw.1))⟩
    | _ => none
  | .crash p =>
    match c.prog p with
    | some (.act _ _) => some ⟨M.abort p c.world, Function.update c.prog p none⟩
    | _ => none
  | .env e => (M.env e c.world).map fun w => ⟨w, c.prog⟩

/-- The configuration a run reaches, when every step of it is enabled. -/
def run (M : Machine Pid Env Store) (c : Config Pid Choice Store α) :
    List (Label Pid Choice Env) → Option (Config Pid Choice Store α)
  | [] => some c
  | l :: ls => (M.step c l).bind fun c' => M.run c' ls

/-- Every step of the run meets `C`, a condition on the store before and the
store after the step. -/
def StepsMeet (M : Machine Pid Env Store) (C : Store → Store → Prop)
    (c : Config Pid Choice Store α) : List (Label Pid Choice Env) → Prop
  | [] => True
  | l :: ls => ∀ c', M.step c l = some c' → C c.world c'.world ∧ M.StepsMeet C c' ls

/-- What `f` reads off the steps of a run, in order. -/
def collect {β : Type} (M : Machine Pid Env Store) (f : Store → Store → List β)
    (c : Config Pid Choice Store α) : List (Label Pid Choice Env) → List β
  | [] => []
  | l :: ls =>
    match M.step c l with
    | none => []
    | some c' => f c.world c'.world ++ M.collect f c' ls

instance decidableStepsMeet (M : Machine Pid Env Store) (C : Store → Store → Prop)
    [∀ w w', Decidable (C w w')] :
    ∀ (c : Config Pid Choice Store α) (ls : List (Label Pid Choice Env)),
      Decidable (M.StepsMeet C c ls)
  | _, [] => .isTrue trivial
  | c, l :: ls =>
    match h : M.step c l with
    | none => .isTrue fun c' h' => absurd (h.symm.trans h') (by simp)
    | some c' =>
      have := decidableStepsMeet M C c' ls
      decidable_of_iff (C c.world c'.world ∧ M.StepsMeet C c' ls)
        ⟨fun h_meet c'' h' => Option.some.inj (h.symm.trans h') ▸ h_meet, fun h_meet => h_meet c' h⟩

variable {M : Machine Pid Env Store} {c c' c'' : Config Pid Choice Store α}

/-! Inversion of a step, one lemma for each kind of label. -/

theorem step_run {p : Pid} {i : Choice}
    (h : M.step c (.run p i) = some c') :
    ∃ (β : Type) (f : Pid → Choice → Store → Option (β × Store))
      (k : β → Prog Pid Choice Store α) (r : β) (w : Store),
      c.prog p = some (.act f k) ∧ f p i c.world = some (r, w) ∧
      c' = ⟨w, Function.update c.prog p (some (k r))⟩ := by
  simp only [step] at h
  split at h
  next β f k hp =>
    obtain ⟨⟨r, w⟩, hf, rfl⟩ := Option.map_eq_some_iff.mp h
    exact ⟨β, f, k, r, w, hp, hf, rfl⟩
  next => exact absurd h (by simp)

theorem step_crash {p : Pid} (h : M.step c (.crash p) = some c') :
    ∃ (β : Type) (f : Pid → Choice → Store → Option (β × Store))
      (k : β → Prog Pid Choice Store α), c.prog p = some (.act f k) ∧
      c' = ⟨M.abort p c.world, Function.update c.prog p none⟩ := by
  simp only [step] at h
  split at h
  next β f k hp => exact ⟨β, f, k, hp, (Option.some.inj h).symm⟩
  next => exact absurd h (by simp)

theorem step_env {e : Env} (h : M.step c (.env e) = some c') :
    ∃ w, M.env e c.world = some w ∧ c' = ⟨w, c.prog⟩ := by
  obtain ⟨w, h_env, rfl⟩ := Option.map_eq_some_iff.mp h
  exact ⟨w, h_env, rfl⟩

/-- A process that has finished has finished. -/
theorem step_ret {l : Label Pid Choice Env} {p : Pid} {a : α} (h : M.step c l = some c')
    (hp : c.prog p = some (.ret a)) : c'.prog p = some (.ret a) := by
  cases l with
  | env e =>
    obtain ⟨w, -, rfl⟩ := step_env h
    exact hp
  | crash q =>
    obtain ⟨β, f, k, hq, rfl⟩ := step_crash h
    have h_ne : p ≠ q := fun h_eq => by simp [← h_eq, hp] at hq
    exact (Function.update_of_ne h_ne ..).trans hp
  | run q i =>
    obtain ⟨β, f, k, r, w, hq, -, rfl⟩ := step_run h
    have h_ne : p ≠ q := fun h_eq => by simp [← h_eq, hp] at hq
    exact (Function.update_of_ne h_ne ..).trans hp

/-- A process that has crashed takes no more steps. -/
theorem step_none {l : Label Pid Choice Env} {p : Pid} (h : M.step c l = some c')
    (hp : c.prog p = none) : c'.prog p = none := by
  cases l with
  | env e =>
    obtain ⟨w, -, rfl⟩ := step_env h
    exact hp
  | crash q =>
    obtain ⟨β, f, k, hq, rfl⟩ := step_crash h
    have h_ne : p ≠ q := fun h_eq => by simp [← h_eq, hp] at hq
    exact (Function.update_of_ne h_ne ..).trans hp
  | run q i =>
    obtain ⟨β, f, k, r, w, hq, -, rfl⟩ := step_run h
    have h_ne : p ≠ q := fun h_eq => by simp [← h_eq, hp] at hq
    exact (Function.update_of_ne h_ne ..).trans hp

theorem run_cons {l : Label Pid Choice Env} {ls : List (Label Pid Choice Env)}
    (h : M.run c (l :: ls) = some c'') :
    ∃ c', M.step c l = some c' ∧ M.run c' ls = some c'' :=
  Option.bind_eq_some_iff.mp h

theorem run_ret {ls : List (Label Pid Choice Env)} {p : Pid} {a : α} (h : M.run c ls = some c')
    (hp : c.prog p = some (.ret a)) : c'.prog p = some (.ret a) := by
  induction ls generalizing c with
  | nil => cases h; exact hp
  | cons l ls ih =>
    obtain ⟨c₁, h_step, h_run⟩ := run_cons h
    exact ih h_run (step_ret h_step hp)

theorem run_none {ls : List (Label Pid Choice Env)} {p : Pid} (h : M.run c ls = some c')
    (hp : c.prog p = none) : c'.prog p = none := by
  induction ls generalizing c with
  | nil => cases h; exact hp
  | cons l ls ih =>
    obtain ⟨c₁, h_step, h_run⟩ := run_cons h
    exact ih h_run (step_none h_step hp)

/-- **The next action of a process**: one that is at an action and finishes takes
that action in some step of the run. -/
theorem run_act {ls : List (Label Pid Choice Env)} {p : Pid} {a : α} {β : Type}
    {f : Pid → Choice → Store → Option (β × Store)} {k : β → Prog Pid Choice Store α}
    (h : M.run c ls = some c') (hp : c.prog p = some (.act f k))
    (h_ret : c'.prog p = some (.ret a)) :
    ∃ ls₀ i ls₁ c₀ c₁ r, ls = ls₀ ++ .run p i :: ls₁ ∧ M.run c ls₀ = some c₀ ∧
      f p i c₀.world = some (r, c₁.world) ∧ c₁.prog p = some (k r) ∧
      M.step c₀ (.run p i) = some c₁ ∧ M.run c₁ ls₁ = some c' := by
  induction ls generalizing c with
  | nil => cases h; exact absurd (hp.symm.trans h_ret) (by simp)
  | cons l ls ih =>
    obtain ⟨c₁, h_step, h_run⟩ := run_cons h
    -- as long as the process has not moved, the action is still to come
    have h_later : c₁.prog p = some (.act f k) → ∃ ls₀ i ls₁ c₀ c₁ r,
        l :: ls = ls₀ ++ .run p i :: ls₁ ∧ M.run c ls₀ = some c₀ ∧
        f p i c₀.world = some (r, c₁.world) ∧ c₁.prog p = some (k r) ∧
        M.step c₀ (.run p i) = some c₁ ∧ M.run c₁ ls₁ = some c' := by
      intro h_still
      obtain ⟨ls₀, i, ls₁, c₂, c₃, r, rfl, h_before, h_rest⟩ := ih h_run h_still
      exact ⟨l :: ls₀, i, ls₁, c₂, c₃, r, rfl, Option.bind_eq_some_iff.mpr ⟨c₁, h_step, h_before⟩,
        h_rest⟩
    cases l with
    | env e =>
      obtain ⟨w, -, rfl⟩ := step_env h_step
      exact h_later hp
    | crash q =>
      obtain ⟨β', f', k', hq, rfl⟩ := step_crash h_step
      by_cases h_eq : p = q
      · -- a process that crashes here does not finish
        subst h_eq
        have h_none := run_none h_run (Function.update_self ..)
        exact absurd (h_none.symm.trans h_ret) (by simp)
      · exact h_later ((Function.update_of_ne h_eq ..).trans hp)
    | run q i =>
      obtain ⟨β', f', k', r, w, hq, hf, rfl⟩ := step_run h_step
      by_cases h_eq : p = q
      · -- this is the action
        subst h_eq
        obtain ⟨rfl, h_f, h_k⟩ := Prog.act.inj (Option.some.inj (hp.symm.trans hq))
        obtain rfl := eq_of_heq h_f
        obtain rfl := eq_of_heq h_k
        exact ⟨[], i, ls, c, _, r, rfl, rfl, hf, Function.update_self .., h_step, h_run⟩
      · exact h_later ((Function.update_of_ne h_eq ..).trans hp)

theorem run_append (ls ls' : List (Label Pid Choice Env)) :
    M.run c (ls ++ ls') = (M.run c ls).bind fun c' => M.run c' ls' := by
  induction ls generalizing c with
  | nil => rfl
  | cons l ls ih =>
    simp only [List.cons_append, run, Option.bind_assoc, ih]

/-- What is left of a run after a part of it. -/
theorem run_rest {ls ls' : List (Label Pid Choice Env)} {c₀ : Config Pid Choice Store α}
    (h : M.run c (ls ++ ls') = some c') (h₀ : M.run c ls = some c₀) :
    M.run c₀ ls' = some c' := by
  rwa [run_append, h₀] at h

/-- What is left of a run after a part of it and a step. -/
theorem run_split (ls : List (Label Pid Choice Env)) {ls' : List (Label Pid Choice Env)}
    {l : Label Pid Choice Env} {c₀ c₁ : Config Pid Choice Store α}
    (h : M.run c (ls ++ l :: ls') = some c')
    (h₀ : M.run c ls = some c₀) (h_step : M.step c₀ l = some c₁) : M.run c₁ ls' = some c' := by
  rw [run_append, h₀] at h
  obtain ⟨c₂, h₂, h_rest⟩ := run_cons h
  exact Option.some.inj (h_step.symm.trans h₂) ▸ h_rest

/-- A run followed by a run is a run. -/
theorem run_trans {ls ls' : List (Label Pid Choice Env)} (h : M.run c ls = some c')
    (h' : M.run c' ls' = some c'') : M.run c (ls ++ ls') = some c'' := by
  rw [run_append, h]
  exact h'

/-- A run and one more step. -/
theorem run_snoc {ls : List (Label Pid Choice Env)} {l : Label Pid Choice Env}
    (h : M.run c ls = some c') (h_step : M.step c' l = some c'') :
    M.run c (ls ++ [l]) = some c'' :=
  run_trans h (Option.bind_eq_some_iff.mpr ⟨c'', h_step, rfl⟩)

theorem stepsMeet_append {C : Store → Store → Prop} {ls ls' : List (Label Pid Choice Env)}
    (h : M.run c ls = some c') (hC : M.StepsMeet C c (ls ++ ls')) :
    M.StepsMeet C c ls ∧ M.StepsMeet C c' ls' := by
  induction ls generalizing c with
  | nil => exact ⟨trivial, by cases h; exact hC⟩
  | cons l ls ih =>
    obtain ⟨c₁, h_step, h_run⟩ := run_cons h
    refine ⟨fun c₂ h₂ => ?_, (ih h_run (hC c₁ h_step).2).2⟩
    obtain rfl : c₁ = c₂ := Option.some.inj (h_step.symm.trans h₂)
    exact ⟨(hC c₁ h_step).1, (ih h_run (hC c₁ h_step).2).1⟩

theorem StepsMeet.append {C : Store → Store → Prop} {ls ls' : List (Label Pid Choice Env)}
    (hC : M.StepsMeet C c ls) (h : M.run c ls = some c') (hC' : M.StepsMeet C c' ls') :
    M.StepsMeet C c (ls ++ ls') := by
  induction ls generalizing c with
  | nil => cases h; exact hC'
  | cons l ls ih =>
    intro c₁ h_step
    obtain ⟨c₂, h₂, h_run⟩ := run_cons h
    obtain rfl : c₂ = c₁ := Option.some.inj (h₂.symm.trans h_step)
    exact ⟨(hC c₂ h₂).1, ih (hC c₂ h₂).2 h_run⟩

/-- The condition holds along a run if it holds of each of its steps. -/
theorem stepsMeet_of_forall {C : Store → Store → Prop} {ls : List (Label Pid Choice Env)}
    (h : ∀ ls₀ l ls₁ c₀ c₁, ls = ls₀ ++ l :: ls₁ → M.run c ls₀ = some c₀ →
      M.step c₀ l = some c₁ → C c₀.world c₁.world) : M.StepsMeet C c ls := by
  induction ls generalizing c with
  | nil => trivial
  | cons l ls ih =>
    refine fun c₁ h_step => ⟨h [] l ls c c₁ rfl rfl h_step, ih ?_⟩
    rintro ls₀ l' ls₁ c₂ c₃ rfl h_run h_step'
    exact h (l :: ls₀) l' ls₁ c₂ c₃ rfl (Option.bind_eq_some_iff.mpr ⟨c₁, h_step, h_run⟩) h_step'

/-- **Induction along a run.** What holds at its start and is carried by every
step that meets `C` holds at its end. -/
theorem run_induction {C : Store → Store → Prop} {P : Config Pid Choice Store α → Prop}
    (h_step : ∀ c l c', P c → M.step c l = some c' → C c.world c'.world → P c')
    {ls : List (Label Pid Choice Env)} (h_start : P c) (h : M.run c ls = some c')
    (hC : M.StepsMeet C c ls) : P c' := by
  induction ls generalizing c with
  | nil => cases h; exact h_start
  | cons l ls ih =>
    obtain ⟨c₁, h₁, h_run⟩ := run_cons h
    obtain ⟨hC₁, hC_rest⟩ := hC c₁ h₁
    exact ih (h_step c l c₁ h_start h₁ hC₁) h_run hC_rest

/-- Induction along a run that knows the run so far. -/
theorem run_induction_on {P : Config Pid Choice Store α → Prop}
    (h_step : ∀ ls c₀ l c₁, M.run c ls = some c₀ → M.step c₀ l = some c₁ → P c₀ → P c₁)
    {ls : List (Label Pid Choice Env)} (h_start : P c) (h : M.run c ls = some c') : P c' := by
  induction ls using List.reverseRec generalizing c' with
  | nil => cases h; exact h_start
  | append_singleton ls l ih =>
    rw [run_append] at h
    obtain ⟨c₀, h₀, h_last⟩ := Option.bind_eq_some_iff.mp h
    obtain ⟨c₁, h₁, h_end⟩ := run_cons h_last
    cases h_end
    exact h_step ls c₀ l _ h₀ h₁ (ih h₀)

/-- **The first moment**: what does not hold at the start of a run and holds at
its end becomes true in one of its steps. -/
theorem exists_moment {P : Config Pid Choice Store α → Prop} {ls : List (Label Pid Choice Env)}
    (h_start : ¬ P c) (h : M.run c ls = some c') (h_end : P c') :
    ∃ ls₀ l ls₁ c₀ c₁, ls = ls₀ ++ l :: ls₁ ∧ M.run c ls₀ = some c₀ ∧ M.step c₀ l = some c₁ ∧
      M.run c₁ ls₁ = some c' ∧ ¬ P c₀ ∧ P c₁ := by
  induction ls generalizing c with
  | nil => cases h; exact absurd h_end h_start
  | cons l ls ih =>
    obtain ⟨c₁, h₁, h_run⟩ := run_cons h
    by_cases h_first : P c₁
    · exact ⟨[], l, ls, c, c₁, rfl, rfl, h₁, h_run, h_start, h_first⟩
    · obtain ⟨ls₀, l', ls₁, c₂, c₃, rfl, h₂, h₃, h₄, h_not, h_yes⟩ := ih h_first h_run
      refine ⟨l :: ls₀, l', ls₁, c₂, c₃, rfl, ?_, h₃, h₄, h_not, h_yes⟩
      exact Option.bind_eq_some_iff.mpr ⟨c₁, h₁, h₂⟩

/-- What a run collects, it collects in one of its steps. -/
theorem mem_collect {β : Type} {f : Store → Store → List β} {b : β}
    {ls : List (Label Pid Choice Env)} (h : b ∈ M.collect f c ls) :
    ∃ ls₀ l ls₁ c₀ c₁, ls = ls₀ ++ l :: ls₁ ∧ M.run c ls₀ = some c₀ ∧ M.step c₀ l = some c₁ ∧
      b ∈ f c₀.world c₁.world := by
  induction ls generalizing c with
  | nil => exact absurd h List.not_mem_nil
  | cons l ls ih =>
    simp only [collect] at h
    split at h
    · exact absurd h List.not_mem_nil
    next c₁ h_step =>
      -- collected by the first step or by a later one
      rcases List.mem_append.mp h with h_now | h_later
      · exact ⟨[], l, ls, c, c₁, rfl, rfl, h_step, h_now⟩
      · obtain ⟨ls₀, l', ls₁, c₂, c₃, rfl, h_before, h_then, h_mem⟩ := ih h_later
        exact ⟨l :: ls₀, l', ls₁, c₂, c₃, rfl, Option.bind_eq_some_iff.mpr ⟨c₁, h_step, h_before⟩,
          h_then, h_mem⟩

/-- A run meets the trivial condition. -/
theorem stepsMeet_true (ls : List (Label Pid Choice Env)) :
    M.StepsMeet (fun _ _ => True) c ls := by
  induction ls generalizing c with
  | nil => trivial
  | cons l ls ih => exact fun c' _ => ⟨trivial, ih⟩

theorem StepsMeet.mono {C C' : Store → Store → Prop} (h_imp : ∀ w w', C w w' → C' w w')
    {ls : List (Label Pid Choice Env)} (h : M.StepsMeet C c ls) : M.StepsMeet C' c ls := by
  induction ls generalizing c with
  | nil => trivial
  | cons l ls ih => exact fun c' hc => ⟨h_imp _ _ (h c' hc).1, ih (h c' hc).2⟩

end Machine

end Interleave
