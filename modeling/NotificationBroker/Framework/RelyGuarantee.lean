import NotificationBroker.Framework.Prog

/-!
# Rely-guarantee reasoning for interleaved programs

Each process is verified on its own. `Safe p Q m w` says of the program `m`, run
by `p` from the store `w`: whatever the others do in between, as long as it is
allowed by the **rely** `R p`, every action of `p` is allowed by the
**guarantee** `G p`, the assertion `K p` holds for as long as `p` is running,
and `p` finishes with `Q`.

`Discipline` collects what makes the parts fit: a step that one process
guarantees is one the others rely on, and the store invariant `Inv` is kept by
every guaranteed step. `Config.Verified.run` is the parallel composition rule:
if every process is safe at the start then it is safe in every state of every
run, and `Config.Verified.move` says what a single step of the interleaving can
do to the store. Everything proved about whole runs starts from the latter.
-/

namespace Interleave

variable {Pid Choice Env Store α β : Type}

/-- The obligations of one kind of process: the store invariant, what it may
rely on, what it guarantees, and what holds while it is running. -/
structure Contract (Pid Store : Type) where
  Inv : Store → Prop
  R : Pid → Store → Store → Prop
  G : Pid → Store → Store → Prop
  K : Pid → Store → Prop

/-- The program `m` of process `p` meets the contract from the store `w` on, and
finishes with `Q`. -/
def Contract.Safe (C : Contract Pid Store) (p : Pid) (Q : α → Store → Prop) :
    Prog Pid Choice Store α → Store → Prop
  | .ret a, w => ∀ w', C.R p w w' → C.Inv w' → Q a w'
  | .act f k, w => ∀ w', C.R p w w' → C.Inv w' → C.K p w' ∧
      ∀ i r w'', f p i w' = some (r, w'') → C.G p w' w'' ∧ C.Safe p Q (k r) w''

/-- The contracts of the processes fit together, with each other and with the
machine's environment and crashes. -/
structure Contract.Discipline (C : Contract Pid Store) (M : Machine Pid Env Store) : Prop where
  rely_refl : ∀ p w, C.R p w w
  rely_trans : ∀ {p w w' w''}, C.R p w w' → C.R p w' w'' → C.R p w w''
  step_inv : ∀ {p w w'}, C.Inv w → C.G p w w' → C.Inv w'
  step_rely : ∀ {p q w w'}, p ≠ q → C.Inv w → C.G q w w' → C.R p w w'
  env_inv : ∀ {e w w'}, C.Inv w → M.env e w = some w' → C.Inv w'
  env_rely : ∀ {e p w w'}, C.Inv w → M.env e w = some w' → C.R p w w'
  abort_inv : ∀ {p w}, C.Inv w → C.Inv (M.abort p w)
  abort_rely : ∀ {p q w}, p ≠ q → C.Inv w → C.R p w (M.abort q w)
  running_stable : ∀ {p w w'}, C.K p w → C.R p w w' → C.K p w'
  running_abort : ∀ {p w}, C.K p w → C.K p (M.abort p w)

namespace Contract

variable {C : Contract Pid Store} {M : Machine Pid Env Store} {p : Pid}

/-! ### Proof rules -/

/-- What others do between two actions of `p` is already accounted for. -/
theorem Safe.stable (hD : C.Discipline M) {Q : α → Store → Prop}
    {m : Prog Pid Choice Store α} {w w' : Store} (h : C.Safe p Q m w) (hR : C.R p w w') :
    C.Safe p Q m w' := by
  cases m with
  | ret a => exact fun w'' h₁ hI => h w'' (hD.rely_trans hR h₁) hI
  | act f k => exact fun w'' h₁ hI => h w'' (hD.rely_trans hR h₁) hI

/-- Consequence: a finished program may forget part of what it established. -/
theorem Safe.mono {Q Q' : α → Store → Prop} (h_imp : ∀ a w, C.Inv w → Q a w → Q' a w)
    {m : Prog Pid Choice Store α} {w : Store} (h : C.Safe p Q m w) : C.Safe p Q' m w := by
  -- the induction is on the program; its actions are the same
  induction m generalizing w with
  | ret a => exact fun w' hR hI => h_imp a w' hI (h w' hR hI)
  | act f k ih =>
    intro w' hR hI
    obtain ⟨hK, h_act⟩ := h w' hR hI
    exact ⟨hK, fun i r w'' hf => ⟨(h_act i r w'' hf).1, ih r (h_act i r w'' hf).2⟩⟩

/-- Framing: what neither `p` nor the others undo is still there at the end. -/
theorem Safe.frame {Q : α → Store → Prop} {F : Store → Prop}
    (hR : ∀ w w', C.R p w w' → F w → F w') (hG : ∀ w w', C.G p w w' → F w → F w')
    {m : Prog Pid Choice Store α} {w : Store} (h : C.Safe p Q m w) (hF : F w) :
    C.Safe p (fun a w => Q a w ∧ F w) m w := by
  induction m generalizing w with
  | ret a => exact fun w' h_rely hI => ⟨h w' h_rely hI, hR w w' h_rely hF⟩
  | act f k ih =>
    intro w' h_rely hI
    obtain ⟨hK, h_act⟩ := h w' h_rely hI
    refine ⟨hK, fun i r w'' hf => ?_⟩
    obtain ⟨h_step, h_rest⟩ := h_act i r w'' hf
    exact ⟨h_step, ih r h_rest (hG w' w'' h_step (hR w w' h_rely hF))⟩

/-- Returning a value whose assertion the others cannot invalidate. -/
theorem Safe.ret {Q : α → Store → Prop} {a : α} {w : Store}
    (h : ∀ w', C.R p w w' → C.Inv w' → Q a w') : C.Safe p Q (.ret a : Prog Pid Choice Store α) w :=
  h

/-- Sequencing: the second program starts wherever the first one finishes. -/
theorem Safe.bind (hD : C.Discipline M) {Q : β → Store → Prop}
    {m : Prog Pid Choice Store α} {g : α → Prog Pid Choice Store β} {w : Store}
    (hI : C.Inv w) (h : C.Safe p (fun a w' => C.Safe p Q (g a) w') m w) :
    C.Safe p Q (m >>= g) w := by
  induction m generalizing w with
  | ret a => exact h w (hD.rely_refl p w) hI
  | act f k ih =>
    intro w' hR hI'
    obtain ⟨hK, h_act⟩ := h w' hR hI'
    refine ⟨hK, fun i r w'' hf => ?_⟩
    obtain ⟨hG, h_rest⟩ := h_act i r w'' hf
    exact ⟨hG, ih r (hD.step_inv hI' hG) h_rest⟩

/-- An atomic action followed by `g`. The goal is about the store `w'` at the
moment the action happens, which the others may have moved on from `w`. -/
theorem Safe.perform (hD : C.Discipline M) {Q : β → Store → Prop}
    {f : Pid → Choice → Store → Option (α × Store)} {g : α → Prog Pid Choice Store β}
    {w : Store}
    (h : ∀ w', C.R p w w' → C.Inv w' → C.K p w' ∧ ∀ i r w'', f p i w' = some (r, w'') →
      C.G p w' w'' ∧ (C.Inv w'' → C.Safe p Q (g r) w'')) :
    C.Safe p Q (Prog.perform f >>= g) w := by
  intro w' hR hI
  obtain ⟨hK, h_act⟩ := h w' hR hI
  refine ⟨hK, fun i r w'' hf => ?_⟩
  obtain ⟨hG, h_rest⟩ := h_act i r w'' hf
  exact ⟨hG, h_rest (hD.step_inv hI hG)⟩

/-- An atomic action that may raise, followed by `g`. -/
theorem Safe.attempt {ε : Type} {Q : Except ε β → Store → Prop}
    {f : Pid → Choice → Store → Option (Except ε α × Store)}
    {g : α → ExceptT ε (Prog Pid Choice Store) β} {w : Store}
    (h : ∀ w', C.R p w w' → C.Inv w' → C.K p w' ∧ ∀ i r w'', f p i w' = some (r, w'') →
      C.G p w' w'' ∧ match r with
        | .ok a => C.Safe p Q (g a) w''
        | .error e => C.Safe p Q (.ret (.error e) : Prog Pid Choice Store (Except ε β)) w'') :
    C.Safe p Q (ExceptT.mk (Prog.act f .ret) >>= g : ExceptT ε (Prog Pid Choice Store) β) w := by
  intro w' hR hI
  obtain ⟨hK, h_act⟩ := h w' hR hI
  refine ⟨hK, fun i r w'' hf => ?_⟩
  obtain ⟨hG, h_rest⟩ := h_act i r w'' hf
  refine ⟨hG, ?_⟩
  cases r with
  | ok a => exact h_rest
  | error e => exact h_rest

/-- Sequencing of programs that may raise: an exception ends the whole. -/
theorem Safe.bind_raising {ε : Type} (hD : C.Discipline M) {Q : Except ε β → Store → Prop}
    {m : ExceptT ε (Prog Pid Choice Store) α} {g : α → ExceptT ε (Prog Pid Choice Store) β}
    {w : Store} (hI : C.Inv w)
    (h : C.Safe p (fun r w' => match r with
      | .ok a => C.Safe p Q (g a).run w'
      | .error e => C.Safe p Q (.ret (.error e) : Prog Pid Choice Store (Except ε β)) w')
      m.run w) :
    C.Safe p Q (m >>= g : ExceptT ε (Prog Pid Choice Store) β).run w := by
  refine Safe.bind hD hI (h.mono fun r w' _ h' => ?_)
  cases r with
  | ok a => exact h'
  | error e => exact h'

/-! ### A single process -/

/-- The contract of a program that runs alone: nothing happens between two of
its actions. -/
def solo (G : Store → Store → Prop) : Contract Unit Store where
  Inv _ := True
  R _ w w' := w = w'
  G _ := G
  K _ _ := True

theorem solo_discipline (G : Store → Store → Prop) {M : Machine Unit Env Store}
    (h_env : ∀ e w w', M.env e w = some w' → w = w') : (solo G).Discipline M where
  rely_refl _ _ := rfl
  rely_trans h h' := Eq.trans h h'
  step_inv _ _ := trivial
  step_rely h_ne _ _ := absurd rfl h_ne
  env_inv _ _ := trivial
  env_rely _ h := h_env _ _ _ h
  abort_inv _ := trivial
  abort_rely h_ne _ := absurd rfl h_ne
  running_stable _ _ := trivial
  running_abort _ := trivial

end Contract

/-! ### Parallel composition -/

section Composition

variable [DecidableEq Pid] {C : Contract Pid Store} {M : Machine Pid Env Store}
  {Q : Pid → α → Store → Prop}

/-- Every process of the configuration is safe, and so is the store. A crashed
process keeps the assertion it had while running. -/
structure Config.Verified (C : Contract Pid Store) (Q : Pid → α → Store → Prop)
    (c : Config Pid Choice Store α) : Prop where
  inv : C.Inv c.world
  safe : ∀ p m, c.prog p = some m → C.Safe p (Q p) m c.world
  crashed : ∀ p, c.prog p = none → C.K p c.world

/-- What one step of the interleaving can do to the store: a step some process
guarantees, a move of the environment, or the rollback of a crashed process. -/
inductive Move (C : Contract Pid Store) (M : Machine Pid Env Store) (w w' : Store) : Prop
  | act (p : Pid) (h : C.G p w w')
  | env (e : Env) (h : M.env e w = some w')
  | abort (p : Pid) (h : w' = M.abort p w)

/-- What a process does in its own step is what it guarantees. -/
theorem Config.Verified.act (hD : C.Discipline M) {c c' : Config Pid Choice Store α} {p : Pid}
    {i : Choice} (h : c.Verified C Q) (h_step : M.step c (.run p i) = some c') :
    C.G p c.world c'.world := by
  obtain ⟨β, f, k, r, w, hp, hf, rfl⟩ := Machine.step_run h_step
  exact (((h.safe p _ hp c.world (hD.rely_refl p _) h.inv).2) i r w hf).1

theorem Config.Verified.step_aux (hD : C.Discipline M) {c c' : Config Pid Choice Store α}
    {l : Label Pid Choice Env} (h : c.Verified C Q) (h_step : M.step c l = some c') :
    c'.Verified C Q ∧ Move C M c.world c'.world := by
  cases l with
  | env e =>
    obtain ⟨w, h_env, rfl⟩ := Machine.step_env h_step
    exact ⟨⟨hD.env_inv h.inv h_env,
      fun p m hm => (h.safe p m hm).stable hD (hD.env_rely h.inv h_env),
      fun p hp => hD.running_stable (h.crashed p hp) (hD.env_rely h.inv h_env)⟩,
      .env e h_env⟩
  | crash p =>
    obtain ⟨β, f, k, hp, rfl⟩ := Machine.step_crash h_step
    -- the program that crashes was running; the others rely on what a crash does
    have hK := (h.safe p _ hp c.world (hD.rely_refl p _) h.inv).1
    refine ⟨⟨hD.abort_inv h.inv, fun q m hq => ?_, fun q hq => ?_⟩, .abort p rfl⟩
    · by_cases hqp : q = p
      · subst hqp
        exact absurd (hq.symm.trans (Function.update_self ..)) (by simp)
      · replace hq := (Function.update_of_ne hqp ..).symm.trans hq
        exact (h.safe q m hq).stable hD (hD.abort_rely hqp h.inv)
    · by_cases hqp : q = p
      · subst hqp
        exact hD.running_abort hK
      · replace hq := (Function.update_of_ne hqp ..).symm.trans hq
        exact hD.running_stable (h.crashed q hq) (hD.abort_rely hqp h.inv)
  | run p i =>
    obtain ⟨β, f, k, r, w, hp, hf, rfl⟩ := Machine.step_run h_step
    -- the step guarantees what the others rely on, and leaves a program that is safe again
    obtain ⟨-, h_act⟩ := h.safe p _ hp c.world (hD.rely_refl p _) h.inv
    obtain ⟨hG, h_rest⟩ := h_act i r w hf
    refine ⟨⟨hD.step_inv h.inv hG, fun q m hq => ?_, fun q hq => ?_⟩, .act p hG⟩
    · by_cases hqp : q = p
      · subst hqp
        replace hq : Function.update c.prog q (some (k r)) q = some m := hq
        rw [Function.update_self] at hq
        obtain rfl := Option.some.inj hq
        exact h_rest
      · replace hq := (Function.update_of_ne hqp ..).symm.trans hq
        exact (h.safe q m hq).stable hD (hD.step_rely hqp h.inv hG)
    · by_cases hqp : q = p
      · subst hqp
        exact absurd (hq.symm.trans (Function.update_self ..)) (by simp)
      · replace hq := (Function.update_of_ne hqp ..).symm.trans hq
        exact hD.running_stable (h.crashed q hq) (hD.step_rely hqp h.inv hG)

theorem Config.Verified.step (hD : C.Discipline M) {c c' : Config Pid Choice Store α}
    {l : Label Pid Choice Env} (h : c.Verified C Q) (h_step : M.step c l = some c') :
    c'.Verified C Q :=
  (h.step_aux hD h_step).1

/-- **Inversion of a step**: from a verified configuration the store only moves
as the contracts allow. -/
theorem Config.Verified.move (hD : C.Discipline M) {c c' : Config Pid Choice Store α}
    {l : Label Pid Choice Env} (h : c.Verified C Q) (h_step : M.step c l = some c') :
    Move C M c.world c'.world :=
  (h.step_aux hD h_step).2

/-- **Parallel composition**: what is safe at the start of a run is safe at its
end. -/
theorem Config.Verified.run (hD : C.Discipline M) {c c' : Config Pid Choice Store α}
    {ls : List (Label Pid Choice Env)} (h : c.Verified C Q) (h_run : M.run c ls = some c') :
    c'.Verified C Q :=
  Machine.run_induction (fun _ _ _ hP h_step _ => hP.step hD h_step) h h_run
    (Machine.stepsMeet_true ls)

omit [DecidableEq Pid] in
/-- A finished process has established its postcondition. -/
theorem Config.Verified.result (hD : C.Discipline M) {c : Config Pid Choice Store α}
    (h : c.Verified C Q) {p : Pid} {a : α} (hp : c.prog p = some (.ret a)) :
    Q p a c.world :=
  h.safe p _ hp c.world (hD.rely_refl p _) h.inv

omit [DecidableEq Pid] in
/-- A process that has not finished still has the assertion of a running one. -/
theorem Config.Verified.running (hD : C.Discipline M) {c : Config Pid Choice Store α}
    (h : c.Verified C Q) {p : Pid} (hp : ∀ a, c.prog p ≠ some (.ret a)) :
    C.K p c.world := by
  cases hm : c.prog p with
  | none => exact h.crashed p hm
  | some m =>
    cases m with
    | ret a => exact absurd hm (hp a)
    | act f k => exact (h.safe p _ hm c.world (hD.rely_refl p _) h.inv).1

/-- **Invariants of whole runs**: a property of the store that every move
meeting `D` preserves holds at the end of every run that meets `D`. -/
theorem Config.Verified.invariant (hD : C.Discipline M) {P : Store → Prop}
    {D : Store → Store → Prop}
    (h_move : ∀ w w', C.Inv w → P w → Move C M w w' → D w w' → P w')
    {c c' : Config Pid Choice Store α} {ls : List (Label Pid Choice Env)}
    (h : c.Verified C Q) (h_start : P c.world) (h_run : M.run c ls = some c')
    (h_meet : M.StepsMeet D c ls) : P c'.world :=
  (Machine.run_induction (P := fun c => c.Verified C Q ∧ P c.world)
    (fun _ _ _ hP h_step hd =>
      ⟨hP.1.step hD h_step, h_move _ _ hP.1.inv hP.2 (hP.1.move hD h_step) hd⟩)
    ⟨h, h_start⟩ h_run h_meet).2

/-- **What a run collects**: a relation between what has been read off the steps so
far and the store holds at the end if every move carries it. -/
theorem Config.Verified.collected {β : Type} (hD : C.Discipline M) {f : Store → Store → List β}
    {P : List β → Store → Prop}
    (h_move : ∀ t w w', C.Inv w → C.Inv w' → P t w → Move C M w w' → P (t ++ f w w') w')
    {c c' : Config Pid Choice Store α} {ls : List (Label Pid Choice Env)} {t : List β}
    (h : c.Verified C Q) (h_start : P t c.world) (h_run : M.run c ls = some c') :
    P (t ++ M.collect f c ls) c'.world := by
  induction ls generalizing c t with
  | nil =>
    cases h_run
    rwa [Machine.collect, List.append_nil]
  | cons l ls ih =>
    obtain ⟨c₁, h_step, h_rest⟩ := Machine.run_cons h_run
    have h₁ := h.step hD h_step
    -- the first step adds what is read off it, and the rest of the run the rest
    have h_next := ih h₁ (h_move t _ _ h.inv h₁.inv h_start (h.move hD h_step)) h_rest
    simpa only [Machine.collect, h_step, List.append_assoc] using h_next

/-- **Two states of a run**: a preorder on stores that every move respects
relates the start of a run to its end. -/
theorem Config.Verified.along (hD : C.Discipline M) {S : Store → Store → Prop}
    (h_refl : ∀ w, S w w) (h_trans : ∀ {w w' w''}, S w w' → S w' w'' → S w w'')
    (h_move : ∀ w w', C.Inv w → Move C M w w' → S w w')
    {c c' : Config Pid Choice Store α} {ls : List (Label Pid Choice Env)}
    (h : c.Verified C Q) (h_run : M.run c ls = some c') : S c.world c'.world :=
  h.invariant hD (P := S c.world)
    (fun w w' hI hP hM _ => h_trans hP (h_move w w' hI hM)) (h_refl _) h_run
    (Machine.stepsMeet_true ls)

end Composition

end Interleave
