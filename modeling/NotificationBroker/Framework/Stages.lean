import NotificationBroker.Framework.Parts
import NotificationBroker.Framework.Precedence
import NotificationBroker.Framework.Sequential

/-!
# Programs in stages

A store may have two parts with nothing in common, each with processes and a machine of its own.
A process of the whole then runs one program on either part, one after the other, or only one of
them, or none, and makes an answer of what they return. `Staged` says that what is left of the
process stands for what is left of the two programs.

`Simulates.run` reads a run of the whole as a run of each part: the state of the part is the
part of the state, and the programs of the processes are related as before. A step on the other
part is none, and neither is a step that leaves the part as it is (`Role.Idle`).
-/

namespace Interleave

variable {Pid Choice Env EnvA Whole StoreA StoreB α β γ : Type}

/-- The parts do not overlap. -/
structure Part.Independent (a : Part Whole StoreA) (b : Part Whole StoreB) : Prop where
  get_put : ∀ w s, a.get (b.put w s) = a.get s
  get_put' : ∀ w s, b.get (a.put w s) = b.get s

namespace Prog

/-- The program has not finished. -/
def Busy : Prog Pid Choice StoreB β → Prop
  | ret _ => False
  | act _ _ => True

/-- What is special about a process: its program on the second part, what has to be left of the
first program for it to start, what the process may do to the second part beside it, and how the
answers depend on what is left of the two. -/
structure Role (Pid Choice StoreA StoreB α β γ : Type) where
  start : Prog Pid Choice StoreB β
  Ready : Prog Pid Choice StoreA α → Prop
  Idle : StoreB → StoreB → Prop
  Answers : Prog Pid Choice StoreA α → Prog Pid Choice StoreB β → γ → Prop

/-- A process of `p` on the whole, where `x` and `y` are left of the programs on the parts. -/
inductive Staged (a : Part Whole StoreA) (b : Part Whole StoreB) (p : Pid)
    (R : Role Pid Choice StoreA StoreB α β γ) :
    Prog Pid Choice StoreA α → Prog Pid Choice StoreB β → Prog Pid Choice Whole γ → Prop
  | done {x : Prog Pid Choice StoreA α} {y : Prog Pid Choice StoreB β} {c : γ}
      (h_ready : y = R.start ∨ R.Ready x) (h : R.Answers x y c) : Staged a b p R x y (.ret c)
  | first {x : Prog Pid Choice StoreA α} (g : α → Prog Pid Choice Whole γ)
      (h : ∀ r, Staged a b p R (.ret r) R.start (g r)) :
      Staged a b p R x R.start (x.within a >>= g)
  | second {x : Prog Pid Choice StoreA α} {δ : Type} (z : Prog Pid Choice StoreB δ) (wrap : δ → β)
      (g : δ → Prog Pid Choice Whole γ) (h_ready : R.Ready x)
      (h : ∀ r, ∃ c, g r = .ret c ∧ R.Answers x (.ret (wrap r)) c) :
      Staged a b p R x (z >>= fun r => .ret (wrap r)) (z.within b >>= g)
  | idle {x : Prog Pid Choice StoreA α} {δ : Type} (z : Prog Pid Choice StoreB δ)
      (g : δ → Prog Pid Choice Whole γ)
      (h_idle : z.Awaits p (fun _ _ => False) R.Idle fun _ => True)
      (h : ∀ r, ∃ c, g r = .ret c ∧ R.Answers x R.start c) :
      Staged a b p R x R.start (z.within b >>= g)

variable {a : Part Whole StoreA} {b : Part Whole StoreB} {p : Pid}
  {R : Role Pid Choice StoreA StoreB α β γ} {x : Prog Pid Choice StoreA α}
  {y : Prog Pid Choice StoreB β}

theorem within_act {Store : Type} {part : Part Whole Store} {δ ε : Type}
    (f : Pid → Choice → Store → Option (ε × Store)) (k : ε → Prog Pid Choice Store δ)
    (g : δ → Prog Pid Choice Whole γ) :
    ((act f k).within part >>= g) =
      act (fun p i s => (f p i (part.get s)).map fun rw => (rw.1, part.put rw.2 s))
        fun r => (k r).within part >>= g := rfl

theorem Busy.exists_act {m : Prog Pid Choice StoreB β} (h : m.Busy) :
    ∃ (δ : Type) (f : Pid → Choice → StoreB → Option (δ × StoreB))
      (k : δ → Prog Pid Choice StoreB β), m = .act f k := by
  cases m with
  | ret r => exact h.elim
  | act f k => exact ⟨_, f, k, rfl⟩

/-- The second program has not started, or it was its turn. -/
theorem Staged.ready {m : Prog Pid Choice Whole γ} (h : Staged a b p R x y m) :
    y = R.start ∨ R.Ready x := by
  cases h with
  | done h_ready => exact h_ready
  | second z wrap g h_ready => exact .inr h_ready
  | first | idle => exact .inl rfl

theorem Staged.answers {c : γ} (h : Staged a b p R x y (.ret c)) : R.Answers x y c := by
  generalize hm : Prog.ret c = m at h
  induction h with
  | done h_ready h =>
    obtain rfl := Prog.ret.inj hm
    exact h
  | @first x g h ih =>
    -- a first part that has not ended has not answered
    cases x with
    | ret r => exact ih r hm
    | act f k => exact absurd hm (by simp [within_act])
  | second z wrap g h_ready h =>
    -- once the second part has ended, what is left is its answer
    cases z with
    | ret r =>
      obtain ⟨c', h_ret, h_answers⟩ := h r
      obtain rfl := Prog.ret.inj (hm.trans (show _ = Prog.ret c' from h_ret))
      exact h_answers
    | act f k => exact absurd hm (by simp [within_act])
  | idle z g h_idle h =>
    cases z with
    | ret r =>
      obtain ⟨c', h_ret, h_answers⟩ := h r
      obtain rfl := Prog.ret.inj (hm.trans (show _ = Prog.ret c' from h_ret))
      exact h_answers
    | act f k => exact absurd hm (by simp [within_act])

/-- As long as the process runs, its second program does. -/
theorem Staged.busy (h_busy : R.start.Busy) {δ : Type}
    {f : Pid → Choice → Whole → Option (δ × Whole)} {k : δ → Prog Pid Choice Whole γ}
    (h : Staged a b p R x y (.act f k)) : y.Busy := by
  generalize hm : Prog.act f k = m at h
  cases h with
  | done => exact absurd hm (by simp)
  | first | idle => exact h_busy
  | second z wrap g h_ready h =>
    cases z with
    | ret r =>
      obtain ⟨c, h_ret, -⟩ := h r
      exact absurd (hm.trans (show _ = Prog.ret c from h_ret)) (by simp)
    | act f' k' => trivial

/-- The answers of a staged process may be rewritten. -/
theorem Staged.map {δ : Type} {R' : Role Pid Choice StoreA StoreB α β δ} (f : γ → δ)
    {m : Prog Pid Choice Whole γ} (h : Staged a b p R x y m) (h_start : R'.start = R.start)
    (h_ready : R'.Ready = R.Ready) (h_idle : R'.Idle = R.Idle)
    (h_answers : ∀ x y c, R.Answers x y c → R'.Answers x y (f c)) :
    Staged a b p R' x y (m >>= fun c => .ret (f c)) := by
  -- what comes after the second part, with the answer mapped
  have h_last : ∀ {ε : Type} {g : ε → Prog Pid Choice Whole γ} {x : Prog Pid Choice StoreA α}
      {y : ε → Prog Pid Choice StoreB β}, (∀ r, ∃ c, g r = .ret c ∧ R.Answers x (y r) c) →
      ∀ r, ∃ c, (g r >>= fun c => Prog.ret (f c)) = .ret c ∧ R'.Answers x (y r) c := by
    intro ε g x y h r
    obtain ⟨c, h_ret, h_c⟩ := h r
    exact ⟨f c, by rw [h_ret]; rfl, h_answers _ _ _ h_c⟩
  induction h with
  | done h_before h =>
    refine .done ?_ (h_answers _ _ _ h)
    rw [h_start, h_ready]
    exact h_before
  | first g h ih =>
    rw [bind_assoc, ← h_start]
    exact .first _ fun r => h_start ▸ ih r
  | second z wrap g h_before h =>
    rw [bind_assoc]
    exact .second z wrap _ (h_ready ▸ h_before) (h_last h)
  | idle z g h_steps h =>
    rw [bind_assoc, ← h_start]
    exact .idle z _ (h_idle ▸ h_steps) (h_start.symm ▸ h_last h)

/-- **A step of a staged process** is a step of one of its programs, or leaves both parts as they
are. -/
theorem Staged.step (h_parts : a.Independent b) {δ : Type}
    {f : Pid → Choice → Whole → Option (δ × Whole)} {k : δ → Prog Pid Choice Whole γ} {i : Choice}
    {s s' : Whole} {r : δ} (h : Staged a b p R x y (.act f k)) (hf : f p i s = some (r, s'))
    (h_idle : ∀ w, R.Idle (b.get s) w → w = b.get s) :
    (∃ (ε : Type) (f' : Pid → Choice → StoreA → Option (ε × StoreA))
      (k' : ε → Prog Pid Choice StoreA α) (r' : ε), x = .act f' k' ∧
      f' p i (a.get s) = some (r', a.get s') ∧ b.get s' = b.get s ∧
      Staged a b p R (k' r') y (k r)) ∨
    (∃ (ε : Type) (f' : Pid → Choice → StoreB → Option (ε × StoreB))
      (k' : ε → Prog Pid Choice StoreB β) (r' : ε), y = .act f' k' ∧
      f' p i (b.get s) = some (r', b.get s') ∧ a.get s' = a.get s ∧
      Staged a b p R x (k' r') (k r)) ∨
    (a.get s' = a.get s ∧ b.get s' = b.get s ∧ Staged a b p R x y (k r)) := by
  generalize hm : Prog.act f k = m at h
  induction h with
  | done => exact absurd hm (by simp)
  | @first x g h ih =>
    cases x with
    -- the first part has ended, so the step is one of the next stage
    | ret r₀ => exact ih r₀ hm
    | act f' k' =>
      -- the action is the one of the first part, in its own store
      rw [within_act] at hm
      obtain ⟨rfl, h_f, h_k⟩ := Prog.act.inj hm
      obtain rfl := eq_of_heq h_f
      obtain rfl := eq_of_heq h_k
      obtain ⟨⟨r', w⟩, hf', h_eq⟩ := Option.map_eq_some_iff.mp hf
      obtain ⟨rfl, rfl⟩ := Prod.mk.inj h_eq
      refine .inl ⟨_, f', k', r', rfl, ?_, h_parts.get_put' .., .first g h⟩
      rw [a.get_put]
      exact hf'
  | @second x ε z wrap g h_ready h =>
    cases z with
    | ret r₀ =>
      obtain ⟨c, h_ret, -⟩ := h r₀
      exact absurd (hm.trans (show _ = Prog.ret c from h_ret)) (by simp)
    | act f' k' =>
      -- the action is the one of the second part
      rw [within_act] at hm
      obtain ⟨rfl, h_f, h_k⟩ := Prog.act.inj hm
      obtain rfl := eq_of_heq h_f
      obtain rfl := eq_of_heq h_k
      obtain ⟨⟨r', w⟩, hf', h_eq⟩ := Option.map_eq_some_iff.mp hf
      obtain ⟨rfl, rfl⟩ := Prod.mk.inj h_eq
      refine .inr (.inl
        ⟨_, f', _, r', rfl, ?_, h_parts.get_put .., .second (k' r') wrap g h_ready h⟩)
      rw [b.get_put]
      exact hf'
  | @idle x ε z g h_steps h =>
    cases z with
    | ret r₀ =>
      obtain ⟨c, h_ret, -⟩ := h r₀
      exact absurd (hm.trans (show _ = Prog.ret c from h_ret)) (by simp)
    | act f' k' =>
      -- a query, which leaves its part as it is
      rw [within_act] at hm
      obtain ⟨rfl, h_f, h_k⟩ := Prog.act.inj hm
      obtain rfl := eq_of_heq h_f
      obtain rfl := eq_of_heq h_k
      obtain ⟨⟨r', w⟩, hf', h_eq⟩ := Option.map_eq_some_iff.mp hf
      obtain ⟨rfl, rfl⟩ := Prod.mk.inj h_eq
      obtain ⟨h_step, h_rest⟩ := (h_steps i _ r' w hf').resolve_left id
      rw [h_idle w h_step, b.put_get]
      exact .inr (.inr ⟨rfl, rfl, .idle (k' r') g h_rest h⟩)

end Prog

/-! ### Whole runs -/

/-- The machine of the whole is made of those of the parts. The environment acts on the second
one. -/
structure Machine.Composed (a : Part Whole StoreA) (b : Part Whole StoreB)
    (M : Machine Pid Env Whole) (MA : Machine Pid EnvA StoreA) (MB : Machine Pid Env StoreB) :
    Prop where
  independent : a.Independent b
  env : ∀ {e s s'}, M.env e s = some s' → a.get s' = a.get s ∧ MB.env e (b.get s) = some (b.get s')
  abort_first : ∀ p s, a.get (M.abort p s) = MA.abort p (a.get s)
  abort_second : ∀ p s, b.get (M.abort p s) = MB.abort p (b.get s)

/-- A state of the whole, and the states of the parts that it stands for. -/
structure Simulates (a : Part Whole StoreA) (b : Part Whole StoreB)
    (R : Pid → Prog.Role Pid Choice StoreA StoreB α β γ) (c : Config Pid Choice Whole γ)
    (cA : Config Pid Choice StoreA α) (cB : Config Pid Choice StoreB β) : Prop where
  first : cA.world = a.get c.world
  second : cB.world = b.get c.world
  prog : ∀ p m, c.prog p = some m →
    ∃ x y, cA.prog p = some x ∧ cB.prog p = some y ∧ Prog.Staged a b p (R p) x y m
  crashed : ∀ p, c.prog p = none → cB.prog p = none

namespace Simulates

open Prog Machine

variable [DecidableEq Pid] {a : Part Whole StoreA} {b : Part Whole StoreB}
  {M : Machine Pid Env Whole} {MA : Machine Pid EnvA StoreA} {MB : Machine Pid Env StoreB}
  {R : Pid → Role Pid Choice StoreA StoreB α β γ} {c c' : Config Pid Choice Whole γ}
  {cA : Config Pid Choice StoreA α} {cB : Config Pid Choice StoreB β}

/-- The other processes are where they were. -/
theorem update (h : Simulates a b R c cA cB) {p : Pid} {s : Whole} (wA : StoreA) (wB : StoreB)
    {m : Option (Prog Pid Choice Whole γ)} {x : Option (Prog Pid Choice StoreA α)}
    {y : Option (Prog Pid Choice StoreB β)} (hA : wA = a.get s) (hB : wB = b.get s)
    (h_prog : ∀ m', m = some m' → ∃ x' y', x = some x' ∧ y = some y' ∧
      Staged a b p (R p) x' y' m') (h_crashed : m = none → y = none) :
    Simulates a b R ⟨s, Function.update c.prog p m⟩ ⟨wA, Function.update cA.prog p x⟩
      ⟨wB, Function.update cB.prog p y⟩ := by
  refine ⟨hA, hB, fun q m' hq => ?_, fun q hq => ?_⟩
  · by_cases h_eq : q = p
    · subst h_eq
      simp only [Function.update_self] at hq ⊢
      exact h_prog m' hq
    · simp only [Function.update_of_ne h_eq] at hq ⊢
      exact h.prog q m' hq
  · by_cases h_eq : q = p
    · subst h_eq
      simp only [Function.update_self] at hq ⊢
      exact h_crashed hq
    · simp only [Function.update_of_ne h_eq] at hq ⊢
      exact h.crashed q hq

/-- One step of the whole is at most one step of either part. -/
theorem step (hM : M.Composed a b MA MB) (h_busy : ∀ p, (R p).start.Busy)
    (h : Simulates a b R c cA cB)
    (h_closed : ∀ p r, cA.prog p = some (.ret r) → MA.abort p cA.world = cA.world)
    (h_idle : ∀ p w, (R p).Idle cB.world w → w = cB.world) {l : Label Pid Choice Env}
    (h_step : M.step c l = some c') :
    ∃ lsA lsB cA' cB', MA.run cA lsA = some cA' ∧ MB.run cB lsB = some cB' ∧
      Simulates a b R c' cA' cB' := by
  cases l with
  | env e =>
    obtain ⟨s, h_env, rfl⟩ := step_env h_step
    obtain ⟨hA, hB⟩ := hM.env h_env
    refine ⟨[], [.env e], cA, ⟨b.get s, cB.prog⟩, rfl, ?_, h.first.trans hA.symm, rfl, h.prog,
      h.crashed⟩
    simp [run, Machine.step, h.second, hB]
  | crash p =>
    obtain ⟨δ, f, k, hp, rfl⟩ := step_crash h_step
    obtain ⟨x, y, hx, hy, h_staged⟩ := h.prog p _ hp
    obtain ⟨ε, fB, kB, rfl⟩ := (h_staged.busy (h_busy p)).exists_act
    have hB : MB.run cB [.crash p] =
        some ⟨MB.abort p cB.world, Function.update cB.prog p none⟩ := by
      simp [run, Machine.step, hy]
    cases x with
    | act fA kA =>
      refine ⟨[.crash p], [.crash p], ⟨MA.abort p cA.world, Function.update cA.prog p none⟩, _, ?_,
        hB, h.update _ _ ?_ ?_ (by simp) fun _ => rfl⟩
      · simp [run, Machine.step, hx]
      · rw [h.first, hM.abort_first]
      · rw [h.second, hM.abort_second]
    | ret r =>
      -- the first program has finished, and left nothing to roll back
      refine ⟨[], [.crash p], cA, _, rfl, hB, ?_⟩
      have h_update := h.update (p := p) (s := M.abort p c.world) cA.world
        (MB.abort p cB.world) (m := none) (x := cA.prog p) (y := none) ?_ ?_ (by simp)
        fun _ => rfl
      · rwa [Function.update_eq_self] at h_update
      · rw [hM.abort_first, ← h.first, h_closed p r hx]
      · rw [h.second, hM.abort_second]
  | run p i =>
    obtain ⟨δ, f, k, r, s, hp, hf, rfl⟩ := step_run h_step
    obtain ⟨x, y, hx, hy, h_staged⟩ := h.prog p _ hp
    have h_idle' : ∀ w, (R p).Idle (b.get c.world) w → w = b.get c.world := by
      rw [← h.second]
      exact h_idle p
    rcases h_staged.step hM.independent hf h_idle' with
      ⟨ε, fA, kA, rA, rfl, hfA, h_same, h_rest⟩ | ⟨ε, fB, kB, rB, rfl, hfB, h_same, h_rest⟩ |
      ⟨h_sameA, h_sameB, h_rest⟩
    · refine ⟨[.run p i], [], ⟨a.get s, Function.update cA.prog p (some (kA rA))⟩, cB, ?_, rfl, ?_⟩
      · simp [run, Machine.step, hx, h.first, hfA]
      · have h_update := h.update (p := p) (s := s) _ cB.world (m := some (k r))
          (x := some (kA rA)) (y := cB.prog p) rfl (h.second.trans h_same.symm)
          (fun m' hm' => ⟨kA rA, y, rfl, hy, Option.some.inj hm' ▸ h_rest⟩) (by simp)
        rwa [Function.update_eq_self] at h_update
    · refine ⟨[], [.run p i], cA, ⟨b.get s, Function.update cB.prog p (some (kB rB))⟩, rfl, ?_, ?_⟩
      · simp [run, Machine.step, hy, h.second, hfB]
      · have h_update := h.update (p := p) (s := s) cA.world _ (m := some (k r))
          (x := cA.prog p) (y := some (kB rB)) (h.first.trans h_same.symm) rfl
          (fun m' hm' => ⟨x, kB rB, hx, rfl, Option.some.inj hm' ▸ h_rest⟩) (by simp)
        rwa [Function.update_eq_self] at h_update
    · refine ⟨[], [], cA, cB, rfl, rfl, ?_⟩
      have h_update := h.update (p := p) (s := s) cA.world cB.world
        (m := some (k r)) (x := cA.prog p) (y := cB.prog p) (h.first.trans h_sameA.symm)
        (h.second.trans h_sameB.symm)
        (fun m' hm' => ⟨x, y, hx, hy, Option.some.inj hm' ▸ h_rest⟩) (by simp)
      rwa [Function.update_eq_self, Function.update_eq_self] at h_update

/-- **A run of the whole is a run of either part.** -/
theorem run (hM : M.Composed a b MA MB) (h_busy : ∀ p, (R p).start.Busy)
    {ls : List (Label Pid Choice Env)} (h : Simulates a b R c cA cB)
    (h_closed : ∀ lsA cA' p r, MA.run cA lsA = some cA' → cA'.prog p = some (.ret r) →
      MA.abort p cA'.world = cA'.world)
    (h_idle : ∀ lsB cB' p w, MB.run cB lsB = some cB' → (R p).Idle cB'.world w → w = cB'.world)
    (h_run : M.run c ls = some c') :
    ∃ lsA lsB cA' cB', MA.run cA lsA = some cA' ∧ MB.run cB lsB = some cB' ∧
      Simulates a b R c' cA' cB' := by
  induction ls generalizing c cA cB with
  | nil =>
    cases h_run
    exact ⟨[], [], cA, cB, rfl, rfl, h⟩
  | cons l ls ih =>
    obtain ⟨c₁, h_step, h_rest⟩ := run_cons h_run
    obtain ⟨lsA, lsB, cA₁, cB₁, hA, hB, h₁⟩ := h.step hM h_busy (h_closed [] cA · · rfl)
      (h_idle [] cB · · rfl) h_step
    obtain ⟨lsA', lsB', cA₂, cB₂, hA', hB', h₂⟩ := ih h₁
      (fun lsA' cA' p r h' => h_closed (lsA ++ lsA') cA' p r (run_trans hA h'))
      (fun lsB' cB' p w h' => h_idle (lsB ++ lsB') cB' p w (run_trans hB h')) h_rest
    exact ⟨lsA ++ lsA', lsB ++ lsB', cA₂, cB₂, run_trans hA hA', run_trans hB hB', h₂⟩

end Simulates

end Interleave
