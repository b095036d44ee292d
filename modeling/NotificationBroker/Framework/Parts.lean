import NotificationBroker.Framework.TwoRuns

/-!
# Programs on a part of the store

A store that has a part (`Part`): the part can be read and replaced, and what is replaced is
what is read. A program on the part is a program on the whole store (`Prog.within`), which runs
as it would run on the part alone (`exec_within`) and leaves the rest of the store as it is.
-/

namespace Interleave

/-- A part of a store. -/
structure Part (Whole Store : Type) where
  get : Whole → Store
  put : Store → Whole → Whole
  get_put : ∀ w s, get (put w s) = w
  put_get : ∀ s, put (get s) s = s
  put_put : ∀ w w' s, put w' (put w s) = put w' s

namespace Prog

variable {Pid Choice Whole Store α : Type}

/-- The program as one on the whole store. -/
def within (part : Part Whole Store) : Prog Pid Choice Store α → Prog Pid Choice Whole α
  | ret a => ret a
  | act f k => act (fun p i s => (f p i (part.get s)).map fun rw => (rw.1, part.put rw.2 s))
      fun r => (k r).within part

/-- A run on the whole store is a run on the part, put back in its place. -/
theorem exec_within (part : Part Whole Store) (m : Prog Pid Choice Store α) (p : Pid)
    (is : List Choice) (s : Whole) :
    (m.within part).exec p is s =
      (m.exec p is (part.get s)).map fun aw => (aw.1, part.put aw.2 s) := by
  induction m generalizing is s with
  | ret a =>
    cases is with
    | nil =>
      simp only [within, exec, Option.map_some, part.put_get]
    | cons i is => rfl
  | act f k ih =>
    cases is with
    | nil => rfl
    | cons i is =>
      simp only [within, exec, Option.map_bind]
      cases f p i (part.get s) with
      | none => rfl
      | some rw =>
        simp only [Option.map_some, Option.bind_some, Function.comp_apply]
        -- only the last state of the part is put back in the end
        rw [ih, part.get_put]
        simp only [part.put_put]

variable {part : Part Whole Store} {p : Pid} {s s₁ s₂ : Whole}

/-- What holds of the runs on the part holds of the runs on the whole store. -/
theorem Ends.within {Q : α → Whole → Prop} {m : Prog Pid Choice Store α}
    (h : Ends p (fun a w => Q a (part.put w s)) m (part.get s)) : Ends p Q (m.within part) s := by
  intro is a s' h_run
  rw [exec_within] at h_run
  obtain ⟨⟨a', w'⟩, h_part, h_eq⟩ := Option.map_eq_some_iff.mp h_run
  obtain ⟨rfl, rfl⟩ := Prod.mk.inj h_eq
  exact h is a' w' h_part

theorem Ends₂.within {C₁ C₂ : Choice → Prop} {Q : α → Whole → α → Whole → Prop}
    {m₁ m₂ : Prog Pid Choice Store α}
    (h : Ends₂ p C₁ C₂ (fun a₁ w₁ a₂ w₂ => Q a₁ (part.put w₁ s₁) a₂ (part.put w₂ s₂)) m₁ m₂
      (part.get s₁) (part.get s₂)) :
    Ends₂ p C₁ C₂ Q (m₁.within part) (m₂.within part) s₁ s₂ := by
  intro is₁ is₂ a₁ a₂ s₁' s₂' h_C₁ h_C₂ h_run₁ h_run₂
  rw [exec_within] at h_run₁ h_run₂
  obtain ⟨⟨a₁', w₁'⟩, h_part₁, h_eq₁⟩ := Option.map_eq_some_iff.mp h_run₁
  obtain ⟨⟨a₂', w₂'⟩, h_part₂, h_eq₂⟩ := Option.map_eq_some_iff.mp h_run₂
  obtain ⟨rfl, rfl⟩ := Prod.mk.inj h_eq₁
  obtain ⟨rfl, rfl⟩ := Prod.mk.inj h_eq₂
  exact h is₁ is₂ a₁' a₂' w₁' w₂' h_C₁ h_C₂ h_part₁ h_part₂

end Prog

end Interleave
