import Mathlib.Order.Bounds.Basic
import NotificationBroker.Properties.QuotaCounts
import NotificationBroker.Properties.RequestHashes

/-!
# Windows of whole seconds

From the Unix epoch on, the two copies of the window arithmetic, `deduplicationWindowStart`
and `ProducerQuotaService.windowStart`, agree: the window of an instant starts at the
greatest multiple of its length that is not after the instant (`windowStart_eq`).

`RetryHint` is what a client may expect of the seconds it is told to wait. The hint has it if
and only if the window ends in the range of `datetime` and the rest of the window is not rounded
down to whole seconds when it becomes a `float` (`quotaWindow_iff`). The rest of a window of less
than 2 ** 34 seconds never is (`secondsVisible_of_lt`).
-/

namespace NotificationBroker

open Interleave Python
open ReadCommitted (Ticket)

/-- The start of the window that an instant falls into. -/
def windowOf (now window : ℤ) : ℤ := now / window * window

/-- What a client may expect of the seconds it waits: at most a window, the next window is
reached, the one after it is not, and no fewer seconds would do. -/
structure RetryHint (now window seconds : ℤ) : Prop where
  pos : 1 ≤ seconds
  le_window : seconds * 1000000 ≤ window
  reaches : windowOf now window + window ≤ now + seconds * 1000000
  before_second : now + seconds * 1000000 < windowOf now window + 2 * window
  least : ∀ fewer < seconds, now + fewer * 1000000 < windowOf now window + window

/-- The duration is more than half of the distance of two doubles above the whole seconds below
it, so that its `float` does not lose the part of a second. -/
def SecondsVisible (duration : ℤ) : Prop :=
  ⌈(duration : ℚ) / 1000000⌉ - 1 + ulp (duration / 1000000) / 2 < (duration : ℚ) / 1000000

instance (duration : ℤ) : Decidable (SecondsVisible duration) := by
  unfold SecondsVisible; infer_instance

section Arithmetic

variable {now later window : ℤ}

theorem windowOf_le (now : ℤ) (h_pos : 0 < window) : windowOf now window ≤ now :=
  Int.ediv_mul_le now h_pos.ne'

theorem lt_windowOf_add (now : ℤ) (h_pos : 0 < window) : now < windowOf now window + window := by
  have h_lt := Int.lt_ediv_add_one_mul_self now h_pos
  rwa [add_mul, one_mul] at h_lt

/-- The window of an instant starts at the greatest multiple of its length up to it. -/
theorem windowOf_isGreatest (h_pos : 0 < window) :
    IsGreatest {t | window ∣ t ∧ t ≤ now} (windowOf now window) := by
  refine ⟨⟨Int.dvd_mul_left _ _, windowOf_le now h_pos⟩, fun t ⟨h_dvd, h_le⟩ => ?_⟩
  obtain ⟨k, rfl⟩ := h_dvd
  rw [windowOf, mul_comm window k]
  refine Int.mul_le_mul_of_nonneg_right ?_ h_pos.le
  exact (Int.le_ediv_iff_mul_le h_pos).mpr (by rwa [mul_comm])

theorem windowOf_mono (h_pos : 0 < window) (h : now ≤ later) :
    windowOf now window ≤ windowOf later window :=
  Int.mul_le_mul_of_nonneg_right (Int.ediv_le_ediv h_pos h) h_pos.le

theorem windowOf_nonneg (h_pos : 0 < window) (h : 0 ≤ now) : 0 ≤ windowOf now window :=
  Int.mul_nonneg (Int.ediv_nonneg h h_pos.le) h_pos.le

/-- Whole seconds that a duration fills. -/
theorem ceil_seconds_iff {duration seconds : ℤ} : ⌈(duration : ℚ) / 1000000⌉ = seconds ↔
    (seconds - 1) * 1000000 < duration ∧ duration ≤ seconds * 1000000 := by
  rw [Int.ceil_eq_iff, lt_div_iff₀ (by norm_num), div_le_iff₀ (by norm_num)]
  norm_cast

/-- The rounded-up rest of the window is the hint, and nothing else is. -/
theorem retryHint_iff (h_pos : 0 < window) (h_whole : window % 1000000 = 0) {seconds : ℤ} :
    RetryHint now window seconds ↔
      ⌈((windowOf now window + window - now : ℤ) : ℚ) / 1000000⌉ = seconds := by
  rw [ceil_seconds_iff]
  refine ⟨fun h => ?_, fun h => ?_⟩
  · have h_least := h.least (seconds - 1) (by omega)
    have h_reaches := h.reaches
    omega
  · have h_le := windowOf_le now h_pos
    have h_lt := lt_windowOf_add now h_pos
    exact ⟨by omega, by omega, by omega, by omega, fun fewer h_fewer => by omega⟩

/-- The rest of a window that ends in the range of `datetime`, in seconds. -/
theorem abs_rest_lt (h_pos : 0 < window) (h_epoch : 0 ≤ now)
    (h_range : Datetime.InRange (windowOf now window + window)) :
    |((windowOf now window + window - now : ℤ) : ℚ) / 1000000| < 2 ^ 52 := by
  have h_lt := lt_windowOf_add now h_pos
  have h_rest : windowOf now window + window - now < 2 ^ 52 * 1000000 := by
    have h_end : windowOf now window + window < 253402300800000000 := h_range.2
    omega
  rw [abs_of_nonneg (div_nonneg (by exact_mod_cast (by omega)) (by norm_num)),
    div_lt_iff₀ (by norm_num)]
  exact_mod_cast h_rest

/-- The seconds that the code computes are the rounded-up duration, unless the duration has been
rounded down to whole seconds before. -/
theorem max_ceil_totalSeconds_iff {duration : ℤ} (h_pos : 0 < duration)
    (h_abs : |(duration : ℚ) / 1000000| < 2 ^ 52) :
    ⌈(duration : ℚ) / 1000000⌉ = max ⌈Timedelta.totalSeconds duration⌉ 1 ↔
      SecondsVisible duration := by
  have h_seconds : 0 < (duration : ℚ) / 1000000 := div_pos (by exact_mod_cast h_pos) (by norm_num)
  have h_ceil : 0 < ⌈(duration : ℚ) / 1000000⌉ := Int.ceil_pos.mpr h_seconds
  have h_le : ⌈Timedelta.totalSeconds duration⌉ ≤ ⌈(duration : ℚ) / 1000000⌉ :=
    ceil_nearestDouble_le h_abs
  have h_iff : ⌈Timedelta.totalSeconds duration⌉ = ⌈(duration : ℚ) / 1000000⌉ ↔
    SecondsVisible duration := ceil_nearestDouble_eq_iff h_abs
  rw [← h_iff]
  refine ⟨fun h => ?_, fun h => by omega⟩
  by_cases h_one : ⌈(duration : ℚ) / 1000000⌉ = 1
  · -- in the first second a double is never rounded down to zero
    refine h_iff.mpr ?_
    have h_ulp := ulp_le_self h_seconds
    unfold SecondsVisible
    rw [h_one]
    push_cast
    linarith
  · omega

/-- Below 2 ** 34 seconds, doubles are less than two microseconds apart. -/
theorem secondsVisible_of_lt {duration : ℤ} (h_pos : 0 < duration)
    (h_lt : duration < 2 ^ 34 * 1000000) : SecondsVisible duration := by
  have h_seconds : 0 < (duration : ℚ) / 1000000 := div_pos (by exact_mod_cast h_pos) (by norm_num)
  have h_ulp : ulp ((duration : ℚ) / 1000000) ≤ 2 ^ ((34 : ℤ) - 53) := by
    refine ulp_le h_seconds ?_
    rw [div_lt_iff₀ (by norm_num)]
    exact_mod_cast h_lt
  obtain ⟨h_below, -⟩ := ceil_seconds_iff.mp (rfl : ⌈(duration : ℚ) / 1000000⌉ = _)
  have h_micro : (⌈(duration : ℚ) / 1000000⌉ - 1 : ℚ) * 1000000 + 1 ≤ duration := by
    exact_mod_cast h_below
  have h_small : (2 : ℚ) ^ ((34 : ℤ) - 53) / 2 < 1 / 1000000 := by norm_num
  unfold SecondsVisible
  have h_div : (⌈(duration : ℚ) / 1000000⌉ - 1 : ℚ) + 1 / 1000000 ≤ duration / 1000000 := by
    rw [le_div_iff₀ (by norm_num), add_mul]
    linarith
  linarith

/-- In a window of 20,000,000,000 seconds, the hint may be one second less than what is left. -/
example : ⌈Timedelta.totalSeconds (20000000000000000 - 1782000000999999)⌉ = 18217999999 ∧
    18217999999 * 1000000 < (20000000000000000 - 1782000000999999 : ℤ) := by decide +kernel

/-- **The two copies of the arithmetic agree**, for every instant. -/
theorem windowStart_eq_deduplication (service : ProducerQuotaService) (now : ℤ) :
    service.windowStart now = deduplicationWindowStart now service.window := by
  have h_valid : ¬ (service.window ≤ 0 ∨ service.window % 1000000 ≠ 0) := by
    have h_pos := service.window_pos
    have h_whole := service.window_whole
    omega
  rw [deduplicationWindowStart, if_neg h_valid]
  rfl

/-- From the epoch on, they compute the start of the window. -/
theorem deduplicationWindowStart_of_nonneg {service : ProducerQuotaService} (h_epoch : 0 ≤ now)
    {start : Instant} :
    deduplicationWindowStart now service.window = .ok start ↔
      Datetime.InRange start ∧ start = windowOf now service.window := by
  rw [deduplicationWindowStart_ok_iff,
    windowBucket_of_nonneg h_epoch service.window_pos service.window_whole]
  exact ⟨fun h => h.2.2, fun h => ⟨service.window_pos, service.window_whole, h⟩⟩

theorem windowOf_inRange (h_pos : 0 < window) (h_epoch : 0 ≤ now)
    (h_range : Datetime.InRange now) : Datetime.InRange (windowOf now window) :=
  ⟨le_trans (by decide) (windowOf_nonneg h_pos h_epoch),
    lt_of_le_of_lt (windowOf_le now h_pos) h_range.2⟩

/-- Beyond the limit, the verdict is an `OverflowError` or some seconds, which are the hint if the
rest of the window is not rounded down. -/
theorem verdict_hint {service : ProducerQuotaService} {count : ℕ} (h_epoch : 0 ≤ now)
    (h_exceeded : service.limit < count) :
    (∃ seconds, service.verdict (windowOf now service.window) now count =
        .error (.producerQuotaExceeded seconds) ∧ RetryHint now service.window seconds) ↔
      Datetime.InRange (windowOf now service.window + service.window) ∧
        SecondsVisible (windowOf now service.window + service.window - now) := by
  unfold ProducerQuotaService.verdict
  dsimp only
  rw [if_pos h_exceeded]
  split
  -- the end of the window has a date: the hint is the rounded rest
  next h_range =>
    have h_rest := sub_pos.mpr (lt_windowOf_add now service.window_pos)
    rw [and_iff_right h_range,
      ← max_ceil_totalSeconds_iff h_rest (abs_rest_lt service.window_pos h_epoch h_range),
      ← retryHint_iff service.window_pos service.window_whole]
    simp
  next h_range => simp [h_range]

end Arithmetic

/-- **Windows and retry hints.** From the epoch on, both services compute the start of the
window, which is the greatest multiple of the window length that is not after the instant, and
later instants have no earlier windows. In every run of `consume`, a call has counted in the
window of its clock reading, and if it is beyond the limit then it tells its client when to
come back (`RetryHint`) if and only if its window ends in the range of `datetime` and what is left
of it is not rounded down to whole seconds. -/
theorem quotaWindow_iff (service : ProducerQuotaService) :
    (∀ now, 0 ≤ now → Datetime.InRange now →
      deduplicationWindowStart now service.window = .ok (windowOf now service.window) ∧
      service.windowStart now = .ok (windowOf now service.window)) ∧
    (∀ now, IsGreatest {t | service.window ∣ t ∧ t ≤ now} (windowOf now service.window) ∧
      now < windowOf now service.window + service.window) ∧
    (∀ now later, now ≤ later → windowOf now service.window ≤ windowOf later service.window) ∧
    ∀ callers ls c, service.Run callers ls c → ∀ x ∈ c.world.producerQuotas.handed,
      ∀ now, c.world.readingsOf x.pid = [now] → 0 ≤ now →
        x.key.windowStart = windowOf now service.window ∧
        (service.limit < x.count →
          ((∃ seconds, c.outcome x.pid = some (.error (.producerQuotaExceeded seconds)) ∧
              RetryHint now service.window seconds) ↔
            Datetime.InRange (windowOf now service.window + service.window) ∧
              SecondsVisible (windowOf now service.window + service.window - now))) := by
  refine ⟨fun now h_epoch h_range => ?_, fun now => ?_, fun now later => ?_, ?_⟩
  · have h_start := (deduplicationWindowStart_of_nonneg h_epoch).mpr
      ⟨windowOf_inRange service.window_pos h_epoch h_range, rfl⟩
    exact ⟨h_start, (windowStart_eq_deduplication service now).trans h_start⟩
  · exact ⟨windowOf_isGreatest service.window_pos, lt_windowOf_add now service.window_pos⟩
  · exact windowOf_mono service.window_pos
  · intro callers ls c h_run x hx now h_reading h_epoch
    obtain ⟨-, -, now', h_reading', h_start, h_outcome⟩ := ticket_outcome h_run hx
    obtain rfl := List.singleton_inj.mp (h_reading.symm.trans h_reading')
    rw [windowStart_eq_deduplication] at h_start
    -- the window of the ticket is that of the reading, by both functions
    have h_window := ((deduplicationWindowStart_of_nonneg h_epoch).mp h_start).2
    refine ⟨h_window, fun h_exceeded => ?_⟩
    rw [← verdict_hint h_epoch h_exceeded, h_outcome, h_window]
    simp only [Option.some.injEq]

/-- Half a second into a window of a minute, the second call is told to wait a minute. -/
theorem quotaWindow_hint : ∃ c, (oneRequest 60 (by decide)).Run (fun _ => "billing")
    twoRequests c ∧ (∃ seconds, c.outcome 1 = some (.error (.producerQuotaExceeded seconds)) ∧
      RetryHint 1782000000500000 60000000 seconds) := by
  obtain ⟨c, h_run, h_c⟩ := (oneRequest 60 (by decide)).exists_run (fun _ => "billing")
    twoRequests (fun c => decide (c.world.readingsOf 1 = [1782000000500000] ∧
      (c.world.producerQuotas.handed.map fun x => (x.pid, x.count)) = [(0, 1), (1, 2)]))
    (by decide +kernel)
  obtain ⟨h_reading, h_handed⟩ := of_decide_eq_true h_c
  have h_last : ((1, 2) : ℕ × ℕ) ∈
      c.world.producerQuotas.handed.map fun x => (x.pid, x.count) := by
    rw [h_handed]
    decide
  obtain ⟨x, hx, h_x⟩ := List.mem_map.mp h_last
  obtain ⟨h_pid, h_count⟩ := Prod.mk.inj h_x
  have h_hint := (((quotaWindow_iff (oneRequest 60 (by decide))).2.2.2 _ _ c h_run x hx _
    (by rw [h_pid]; exact h_reading) (by decide)).2 (by rw [h_count]; decide)).mpr
      ⟨by decide, by decide +kernel⟩
  rw [h_pid] at h_hint
  exact ⟨c, h_run, h_hint⟩

/-- A window of 300,000,000,000 seconds has no hint: the second call is beyond the limit and is
not told when to come back. -/
theorem quotaWindow_no_hint : ∃ c, (oneRequest 300000000000 (by decide)).Run
    (fun _ => "billing") twoRequests c ∧
    (∃ x ∈ c.world.producerQuotas.handed, x.pid = 1 ∧ (oneRequest 300000000000 (by decide)).limit <
      x.count) ∧ c.world.readingsOf 1 = [1782000000500000] ∧
    ¬ ∃ seconds, c.outcome 1 = some (.error (.producerQuotaExceeded seconds)) := by
  obtain ⟨c, h_run, h_c⟩ := (oneRequest 300000000000 (by decide)).exists_run
    (fun _ => "billing") twoRequests (fun c =>
      decide ((∃ x ∈ c.world.producerQuotas.handed, x.pid = 1 ∧
        (oneRequest 300000000000 (by decide)).limit < x.count) ∧
        c.world.readingsOf 1 = [1782000000500000] ∧
        c.outcome 1 = some (.error .overflowError))) (by decide +kernel)
  obtain ⟨h_exceeded, h_reading, h_outcome⟩ := of_decide_eq_true h_c
  refine ⟨c, h_run, h_exceeded, h_reading, fun ⟨seconds, h⟩ => ?_⟩
  rw [h_outcome] at h
  exact absurd h (by simp)

end NotificationBroker
