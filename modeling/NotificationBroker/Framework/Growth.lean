import Mathlib.Data.List.Basic

/-!
# Lists of rows that only grow

`Grows S l l'` says that `l'` is `l` with every row changed in a way `S` allows
and with new rows at the end. It is what one process can rely on about a table
that others update and append to, and never delete from.
-/

namespace ReadCommitted

variable {Row : Type}

/-- Rows are updated by `S` and appended. -/
inductive Grows (S : Row → Row → Prop) : List Row → List Row → Prop
  | new (l' : List Row) : Grows S [] l'
  | row {a b : Row} {l l' : List Row} (h_row : S a b) (h_rest : Grows S l l') :
      Grows S (a :: l) (b :: l')

namespace Grows

variable {S : Row → Row → Prop} {l l' l'' : List Row}

/-- Rows are updated one by one, and others are appended. -/
theorem map_append {f : Row → Row} (hf : ∀ r ∈ l, S r (f r)) (new : List Row) :
    Grows S l (l.map f ++ new) := by
  induction l with
  | nil => exact .new new
  | cons r l ih =>
    exact .row (hf r List.mem_cons_self) (ih fun x hx => hf x (List.mem_cons_of_mem r hx))

theorem append (hS : ∀ r, S r r) (l new : List Row) : Grows S l (l ++ new) := by
  simpa using map_append (f := id) (fun r (_ : r ∈ l) => hS r) new

theorem map {f : Row → Row} (hf : ∀ r ∈ l, S r (f r)) : Grows S l (l.map f) := by
  simpa using map_append hf []

theorem refl (hS : ∀ r, S r r) (l : List Row) : Grows S l l := by
  simpa using append hS l []

theorem trans (hS : ∀ {a b c}, S a b → S b c → S a c) (h : Grows S l l') (h' : Grows S l' l'') :
    Grows S l l'' := by
  induction h generalizing l'' with
  | new => exact .new l''
  | row h_row _ ih =>
    cases h' with
    | row h_row' h_rest' => exact .row (hS h_row h_row') (ih h_rest')

theorem imp_of_mem {S' : Row → Row → Prop} (h_imp : ∀ {a b}, a ∈ l → S a b → S' a b)
    (h : Grows S l l') : Grows S' l l' := by
  induction h with
  | new l' => exact .new l'
  | row h_row _ ih =>
    exact .row (h_imp List.mem_cons_self h_row)
      (ih fun h_mem => h_imp (List.mem_cons_of_mem _ h_mem))

theorem imp {S' : Row → Row → Prop} (h_imp : ∀ {a b}, S a b → S' a b) (h : Grows S l l') :
    Grows S' l l' := h.imp_of_mem fun _ => h_imp

/-- What `S` keeps of the rows is a beginning of what the rows show later. -/
theorem map_le {β : Type} {f : Row → β} (hf : ∀ {a b}, S a b → f b = f a) (h : Grows S l l') :
    l.map f <+: l'.map f := by
  induction h with
  | new l' => exact List.nil_prefix
  | row h_row _ ih =>
    rw [List.map_cons, List.map_cons, hf h_row]
    exact (List.prefix_cons_inj _).mpr ih

/-- Every row is still there, changed as `S` allows. -/
theorem mem (h : Grows S l l') {r : Row} (hr : r ∈ l) : ∃ r' ∈ l', S r r' := by
  induction h with
  | new => exact absurd hr List.not_mem_nil
  | row h_row _ ih =>
    rcases List.mem_cons.mp hr with rfl | hr
    · exact ⟨_, List.mem_cons_self, h_row⟩
    · obtain ⟨r', h_mem, h_S⟩ := ih hr
      exact ⟨r', List.mem_cons_of_mem _ h_mem, h_S⟩

end Grows

end ReadCommitted
