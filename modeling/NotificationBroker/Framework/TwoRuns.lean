import NotificationBroker.Framework.Sequential

/-!
# Rules for two runs

What a program makes of one store, compared with what a program makes of another. The two
runs need not be of the same program, and the environment of each is held to a condition of
its own: `Prog.Ends₂ p C₁ C₂ Q m₁ m₂ w₁ w₂` says that whenever `m₁` runs to its end from `w₁`
with choices that meet `C₁`, and `m₂` from `w₂` with choices that meet `C₂`, the two outcomes and
the two final stores are related by `Q`.

The rules follow two programs of the same shape in lockstep. That a program does not see a
part of the store is the case in which its two runs start from stores that differ in that part
only.
-/

namespace Interleave

namespace Prog

variable {Pid Choice Store α β α₁ α₂ β₁ β₂ : Type} {p : Pid} {C C₁ C₂ : Choice → Prop}
  {w w₁ w₂ : Store}

/-- Every two complete runs from `w₁` and `w₂`, with choices that meet the conditions, end with
`Q`. -/
def Ends₂ (p : Pid) (C₁ C₂ : Choice → Prop) (Q : α₁ → Store → α₂ → Store → Prop)
    (m₁ : Prog Pid Choice Store α₁) (m₂ : Prog Pid Choice Store α₂) (w₁ w₂ : Store) : Prop :=
  ∀ is₁ is₂ a₁ a₂ w₁' w₂', (∀ i ∈ is₁, C₁ i) → (∀ i ∈ is₂, C₂ i) →
    m₁.exec p is₁ w₁ = some (a₁, w₁') → m₂.exec p is₂ w₂ = some (a₂, w₂') → Q a₁ w₁' a₂ w₂'

theorem Ends₂.ret {Q : α₁ → Store → α₂ → Store → Prop} {a₁ : α₁} {a₂ : α₂} (h : Q a₁ w₁ a₂ w₂) :
    Ends₂ p C₁ C₂ Q (ret a₁) (ret a₂) w₁ w₂ := by
  intro is₁ is₂ a₁' a₂' w₁' w₂' _ _ h_run₁ h_run₂
  obtain ⟨-, rfl, rfl⟩ := exec_ret h_run₁
  obtain ⟨-, rfl, rfl⟩ := exec_ret h_run₂
  exact h

/-- Both runs take an action. -/
theorem Ends₂.act {Q : α₁ → Store → α₂ → Store → Prop}
    {f₁ : Pid → Choice → Store → Option (β₁ × Store)}
    {f₂ : Pid → Choice → Store → Option (β₂ × Store)}
    {k₁ : β₁ → Prog Pid Choice Store α₁} {k₂ : β₂ → Prog Pid Choice Store α₂}
    (h : ∀ i₁ i₂ r₁ r₂ w₁' w₂', C₁ i₁ → C₂ i₂ → f₁ p i₁ w₁ = some (r₁, w₁') →
      f₂ p i₂ w₂ = some (r₂, w₂') → Ends₂ p C₁ C₂ Q (k₁ r₁) (k₂ r₂) w₁' w₂') :
    Ends₂ p C₁ C₂ Q (act f₁ k₁) (act f₂ k₂) w₁ w₂ := by
  intro is₁ is₂ a₁ a₂ w₁'' w₂'' h_C₁ h_C₂ h_run₁ h_run₂
  cases is₁ with
  | nil => exact absurd h_run₁ (by simp [exec])
  | cons i₁ is₁ =>
    cases is₂ with
    | nil => exact absurd h_run₂ (by simp [exec])
    | cons i₂ is₂ =>
      obtain ⟨⟨r₁, w₁'⟩, hf₁, h_rest₁⟩ := Option.bind_eq_some_iff.mp h_run₁
      obtain ⟨⟨r₂, w₂'⟩, hf₂, h_rest₂⟩ := Option.bind_eq_some_iff.mp h_run₂
      rw [List.forall_mem_cons] at h_C₁ h_C₂
      exact h i₁ i₂ r₁ r₂ w₁' w₂' h_C₁.1 h_C₂.1 hf₁ hf₂ is₁ is₂ a₁ a₂ w₁'' w₂'' h_C₁.2 h_C₂.2
        h_rest₁ h_rest₂

/-- Sequencing: the second programs start where the first ones end. -/
theorem Ends₂.bind {Q : β₁ → Store → β₂ → Store → Prop} {m₁ : Prog Pid Choice Store α₁}
    {m₂ : Prog Pid Choice Store α₂} {g₁ : α₁ → Prog Pid Choice Store β₁}
    {g₂ : α₂ → Prog Pid Choice Store β₂}
    (h : Ends₂ p C₁ C₂ (fun a₁ w₁' a₂ w₂' => Ends₂ p C₁ C₂ Q (g₁ a₁) (g₂ a₂) w₁' w₂')
      m₁ m₂ w₁ w₂) : Ends₂ p C₁ C₂ Q (m₁ >>= g₁) (m₂ >>= g₂) w₁ w₂ := by
  intro is₁ is₂ b₁ b₂ w₁' w₂' h_C₁ h_C₂ h_run₁ h_run₂
  obtain ⟨js₁, ks₁, a₁, v₁, rfl, h_first₁, h_second₁⟩ := exec_bind h_run₁
  obtain ⟨js₂, ks₂, a₂, v₂, rfl, h_first₂, h_second₂⟩ := exec_bind h_run₂
  rw [List.forall_mem_append] at h_C₁ h_C₂
  exact h js₁ js₂ a₁ a₂ v₁ v₂ h_C₁.1 h_C₂.1 h_first₁ h_first₂ ks₁ ks₂ b₁ b₂ w₁' w₂' h_C₁.2 h_C₂.2
    h_second₁ h_second₂

theorem Ends₂.mono {Q Q' : α₁ → Store → α₂ → Store → Prop} {m₁ : Prog Pid Choice Store α₁}
    {m₂ : Prog Pid Choice Store α₂} (h : Ends₂ p C₁ C₂ Q' m₁ m₂ w₁ w₂)
    (h_imp : ∀ a₁ w₁' a₂ w₂', Q' a₁ w₁' a₂ w₂' → Q a₁ w₁' a₂ w₂') :
    Ends₂ p C₁ C₂ Q m₁ m₂ w₁ w₂ :=
  fun is₁ is₂ a₁ a₂ w₁' w₂' h_C₁ h_C₂ h_run₁ h_run₂ => h_imp a₁ w₁' a₂ w₂'
    (h is₁ is₂ a₁ a₂ w₁' w₂' h_C₁ h_C₂ h_run₁ h_run₂)

/-- Sequencing of programs that may raise: both go on, or both end with an exception. -/
theorem Ends₂.bind_raising {ε : Type} {Q : Except ε β₁ → Store → Except ε β₂ → Store → Prop}
    {m₁ : ExceptT ε (Prog Pid Choice Store) α₁} {m₂ : ExceptT ε (Prog Pid Choice Store) α₂}
    {g₁ : α₁ → ExceptT ε (Prog Pid Choice Store) β₁}
    {g₂ : α₂ → ExceptT ε (Prog Pid Choice Store) β₂}
    (h : Ends₂ p C₁ C₂ (fun r₁ w₁' r₂ w₂' =>
      match r₁, r₂ with
      | .ok a₁, .ok a₂ => Ends₂ p C₁ C₂ Q (g₁ a₁) (g₂ a₂) w₁' w₂'
      | .error e₁, .error e₂ => Q (.error e₁) w₁' (.error e₂) w₂'
      | _, _ => False) m₁ m₂ w₁ w₂) :
    Ends₂ p C₁ C₂ Q (m₁ >>= g₁ : ExceptT ε (Prog Pid Choice Store) β₁)
      (m₂ >>= g₂ : ExceptT ε (Prog Pid Choice Store) β₂) w₁ w₂ := by
  refine Ends₂.bind (h.mono fun r₁ w₁' r₂ w₂' hr => ?_)
  cases r₁ with
  | ok a₁ =>
    cases r₂ with
    | ok a₂ => exact hr
    | error e₂ => exact hr.elim
  | error e₁ =>
    cases r₂ with
    | ok a₂ => exact hr.elim
    | error e₂ => exact Ends₂.ret hr

end Prog

end Interleave
