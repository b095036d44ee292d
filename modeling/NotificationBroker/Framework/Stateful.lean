import Mathlib.Init

/-!
# Rules for programs with a state that may raise

A program `ExceptT ε (StateM σ) α` takes a state, and returns or raises and leaves a state
behind; what it has done to the state before it raises stays done. `Stateful.Ends Q m s` says
that the program `m`, started in `s`, ends as `Q` describes. The rules follow the way such
programs are built.
-/

namespace Stateful

variable {ε σ α β : Type}

/-- How the program ends that is started in `s`. -/
def result (m : ExceptT ε (StateM σ) α) (s : σ) : Except ε α × σ := m s

/-- A step: the state determines the answer and the next state. -/
def step (f : σ → Except ε α × σ) : ExceptT ε (StateM σ) α := f

/-- Going on where a program has returned. -/
def andThen (g : α → ExceptT ε (StateM σ) β) : Except ε α × σ → Except ε β × σ
  | (.ok a, s) => result (g a) s
  | (.error e, s) => (.error e, s)

/-- Going on where a program has raised. -/
def orElse (handler : ε → ExceptT ε (StateM σ) α) : Except ε α × σ → Except ε α × σ
  | (.ok a, s) => (.ok a, s)
  | (.error e, s) => result (handler e) s

theorem result_bind (m : ExceptT ε (StateM σ) α) (g : α → ExceptT ε (StateM σ) β) (s : σ) :
    result (m >>= g) s = andThen g (result m s) := by
  have h : result (m >>= g) s = (match m s with
    | (r, s') => (match r with
      | .ok a => g a
      | .error e => (fun s => (Except.error e, s)) : ExceptT ε (StateM σ) β) s') := rfl
  rw [h]
  unfold result
  rcases m s with ⟨r, s'⟩
  cases r <;> rfl

theorem result_tryCatch (m : ExceptT ε (StateM σ) α) (handler : ε → ExceptT ε (StateM σ) α)
    (s : σ) : result (tryCatch m handler) s = orElse handler (result m s) := by
  have h : result (tryCatch m handler) s = (match m s with
    | (r, s') => (match r with
      | .ok a => (fun s => (Except.ok a, s))
      | .error e => handler e : ExceptT ε (StateM σ) α) s') := rfl
  rw [h]
  unfold result
  rcases m s with ⟨r, s'⟩
  cases r <;> rfl

/-- Started in `s`, the program ends as `Q` says. -/
def Ends (Q : Except ε α → σ → Prop) (m : ExceptT ε (StateM σ) α) (s : σ) : Prop :=
  Q (result m s).1 (result m s).2

namespace Ends

variable {Q Q' : Except ε α → σ → Prop} {m : ExceptT ε (StateM σ) α} {s : σ}

theorem step {f : σ → Except ε α × σ} (h : Q (f s).1 (f s).2) : Ends Q (Stateful.step f) s := h

theorem pure {a : α} (h : Q (.ok a) s) : Ends Q (Pure.pure a) s := h

theorem throw {e : ε} (h : Q (.error e) s) : Ends Q (MonadExcept.throw e) s := h

theorem mono (h : Ends Q m s) (h_imp : ∀ r s', Q r s' → Q' r s') : Ends Q' m s := h_imp _ _ h

/-- Sequencing: the second program starts where the first one returns. -/
theorem bind {Q : Except ε β → σ → Prop} {g : α → ExceptT ε (StateM σ) β}
    (h : Ends (fun r s' => match r with
      | .ok a => Ends Q (g a) s'
      | .error e => Q (.error e) s') m s) : Ends Q (m >>= g) s := by
  rw [Ends, result_bind]
  rw [Ends] at h
  rcases h_run : result m s with ⟨r, s'⟩
  rw [h_run] at h
  cases r with
  | ok a => exact h
  | error e => exact h

/-- Sequencing, for a first program that ends as `Q` says. -/
theorem bind_of {R : Except ε β → σ → Prop} {g : α → ExceptT ε (StateM σ) β} (h : Ends Q m s)
    (h_ok : ∀ a s', Q (.ok a) s' → Ends R (g a) s')
    (h_error : ∀ e s', Q (.error e) s' → R (.error e) s') : Ends R (m >>= g) s := by
  refine bind (h.mono fun r s' h_end => ?_)
  cases r with
  | ok a => exact h_ok a s' h_end
  | error e => exact h_error e s' h_end

/-- A handler starts in the state that the exception has left behind. -/
theorem tryCatch {handler : ε → ExceptT ε (StateM σ) α}
    (h : Ends (fun r s' => match r with
      | .ok a => Q (.ok a) s'
      | .error e => Ends Q (handler e) s') m s) :
    Ends Q (MonadExcept.tryCatch m handler) s := by
  have h_catch : result (MonadExcept.tryCatch m handler) s = orElse handler (result m s) :=
    result_tryCatch m handler s
  rw [Ends, h_catch]
  rw [Ends] at h
  rcases h_run : result m s with ⟨r, s'⟩
  rw [h_run] at h
  cases r with
  | ok a => exact h
  | error e => exact h

end Ends

end Stateful
