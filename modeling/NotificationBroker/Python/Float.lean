import Mathlib.Data.Int.Log
import Mathlib.Data.Rat.Floor
import Mathlib.Tactic.Linarith

/-!
# Floating-point numbers

A `float` is a double, and the quotient of two integers is the double nearest to it, of two the
one with an even significand. `timedelta.total_seconds()` is such a quotient, so that a long
duration loses its microseconds: from 2 ** 34 seconds on, two doubles are further apart than two
microseconds (`ulp`).

Doubles are modelled by their values. The rounding is that of the normal range, from 2 ** -1022 to
2 ** 1024; every duration is in it.

`ceil_nearestDouble_eq_iff` says when rounding to a double and then up is the same as rounding up.
-/

namespace Python

/-- The integer nearest to `x`, of two the even one. -/
def roundHalfEven (x : ℚ) : ℤ :=
  if 2 * Int.fract x < 1 then ⌊x⌋
  else if 1 < 2 * Int.fract x then ⌊x⌋ + 1
  else if Even ⌊x⌋ then ⌊x⌋
  else ⌊x⌋ + 1

/-- The distance of the doubles around `x`: they have 53 significant bits. -/
def ulp (x : ℚ) : ℚ := 2 ^ (Int.log 2 |x| - 52)

/-- The double nearest to `x`. -/
def nearestDouble (x : ℚ) : ℚ := roundHalfEven (x / ulp x) * ulp x

/-- `timedelta.total_seconds()`, of a duration in microseconds. -/
def Timedelta.totalSeconds (duration : ℤ) : ℚ := nearestDouble (duration / 1000000)

section Rounding

variable {x : ℚ} {n : ℤ}

theorem floor_le_roundHalfEven (x : ℚ) : ⌊x⌋ ≤ roundHalfEven x := by
  unfold roundHalfEven
  split_ifs <;> omega

theorem roundHalfEven_le_floor_add_one (x : ℚ) : roundHalfEven x ≤ ⌊x⌋ + 1 := by
  unfold roundHalfEven
  split_ifs <;> omega

/-- Up to half a unit above an even integer, rounding does not go beyond it. -/
theorem roundHalfEven_le_iff (h_even : Even n) : roundHalfEven x ≤ n ↔ x ≤ n + 1 / 2 := by
  have h_floor := Int.floor_add_fract x
  have h_nonneg := Int.fract_nonneg x
  have h_lt := Int.fract_lt_one x
  rcases lt_trichotomy ⌊x⌋ n with h | h | h
  · -- both hold
    have h_cast : ((⌊x⌋ + 1 : ℤ) : ℚ) ≤ n := by exact_mod_cast h
    push_cast at h_cast
    exact iff_of_true ((roundHalfEven_le_floor_add_one x).trans h) (by linarith)
  · -- the fraction decides
    subst h
    unfold roundHalfEven
    split_ifs with h_below h_above
    · exact iff_of_true le_rfl (by linarith)
    · exact iff_of_false (by omega) (by linarith)
    · exact iff_of_true le_rfl (by linarith)
  · -- neither does
    have h_cast : ((n + 1 : ℤ) : ℚ) ≤ ⌊x⌋ := by exact_mod_cast h
    push_cast at h_cast
    have h_round := floor_le_roundHalfEven x
    exact iff_of_false (by omega) (by linarith)

end Rounding

section Doubles

variable {x : ℚ} {n k : ℤ}

theorem ulp_pos (x : ℚ) : 0 < ulp x := zpow_pos two_pos _

/-- Below 2 ** 52 in magnitude, an integer is an even number of steps from zero. -/
theorem exists_even_steps (h : |x| < 2 ^ 52) (n : ℤ) : ∃ m : ℤ, Even m ∧ (n : ℚ) = m * ulp x := by
  have h_log : Int.log 2 |x| < 52 := by
    rcases (abs_nonneg x).eq_or_lt with h_zero | h_pos
    · rw [← h_zero, Int.log_zero_right]
      decide
    · exact (Int.lt_zpow_iff_log_lt one_lt_two h_pos).mp (by exact_mod_cast h)
  obtain ⟨e, h_e⟩ : ∃ e : ℕ, 52 - Int.log 2 |x| = e + 1 := ⟨(51 - Int.log 2 |x|).toNat, by omega⟩
  refine ⟨n * 2 ^ (e + 1), ⟨n * 2 ^ e, by ring⟩, ?_⟩
  have h_step : ((2 : ℚ) ^ (e + 1)) * ulp x = 1 := by
    rw [ulp, ← zpow_natCast, ← zpow_add₀ two_ne_zero]
    push_cast
    rw [← h_e, show 52 - Int.log 2 |x| + (Int.log 2 |x| - 52) = 0 by ring, zpow_zero]
  push_cast
  rw [mul_assoc, h_step, mul_one]

/-- Where integers are even numbers of steps, what is up to half a step above an integer is not
rounded beyond it. -/
theorem nearestDouble_le_iff (h : |x| < 2 ^ 52) : nearestDouble x ≤ n ↔ x ≤ n + ulp x / 2 := by
  obtain ⟨m, h_even, h_n⟩ := exists_even_steps h n
  have h_pos := ulp_pos x
  calc nearestDouble x ≤ n
      ↔ roundHalfEven (x / ulp x) * ulp x ≤ (m : ℚ) * ulp x := by rw [nearestDouble, h_n]
    _ ↔ roundHalfEven (x / ulp x) ≤ m := by rw [mul_le_mul_iff_left₀ h_pos, Int.cast_le]
    _ ↔ x / ulp x ≤ m + 1 / 2 := roundHalfEven_le_iff h_even
    _ ↔ x ≤ (m + 1 / 2) * ulp x := div_le_iff₀ h_pos
    _ ↔ x ≤ n + ulp x / 2 := by rw [h_n, add_mul, one_div_mul_eq_div]

/-- **Rounding to a double and then up.** The integer above a number is found unless the number is
rounded down to the integer below it, which is so up to half a step above that one. -/
theorem ceil_nearestDouble_eq_iff (h : |x| < 2 ^ 52) :
    ⌈nearestDouble x⌉ = ⌈x⌉ ↔ ⌈x⌉ - 1 + ulp x / 2 < x := by
  have h_pos := ulp_pos x
  have h_le : nearestDouble x ≤ ⌈x⌉ :=
    (nearestDouble_le_iff h).mpr (by linarith [Int.le_ceil x])
  have h_below := nearestDouble_le_iff (n := ⌈x⌉ - 1) h
  push_cast at h_below
  rw [Int.ceil_eq_iff, and_iff_left h_le, ← not_le, h_below, not_le]

/-- A number that is not an integer may be rounded to one, but never beyond. -/
theorem ceil_nearestDouble_le (h : |x| < 2 ^ 52) : ⌈nearestDouble x⌉ ≤ ⌈x⌉ :=
  Int.ceil_le.mpr ((nearestDouble_le_iff h).mpr
    (by linarith [Int.le_ceil x, ulp_pos x]))

/-- Numbers of a magnitude below 2 ** k are no further apart than 2 ** (k - 53). -/
theorem ulp_le (h_pos : 0 < x) (h : x < 2 ^ k) : ulp x ≤ 2 ^ (k - 53) := by
  have h_log : Int.log 2 |x| < k := by
    rw [abs_of_pos h_pos]
    exact (Int.lt_zpow_iff_log_lt one_lt_two h_pos).mp (by exact_mod_cast h)
  exact zpow_le_zpow_right₀ one_le_two (by omega)

/-- A positive number is many steps away from zero. -/
theorem ulp_le_self (h_pos : 0 < x) : ulp x ≤ x := by
  have h_power : ((2 : ℕ) : ℚ) ^ Int.log 2 x ≤ x := Int.zpow_log_le_self one_lt_two h_pos
  calc ulp x = 2 ^ (Int.log 2 x - 52) := by rw [ulp, abs_of_pos h_pos]
    _ ≤ 2 ^ Int.log 2 x := zpow_le_zpow_right₀ one_le_two (by omega)
    _ ≤ x := by exact_mod_cast h_power

end Doubles

end Python
