import Mathlib.Tactic.IntervalCases
import Mathlib.Tactic.Linarith
import NotificationBroker.Python.Text

/-!
# The calendar

`civil`, with which `isoformat` splits a day into year, month and day, and its inverse
`ordinal`. A day is the day of its date (`ordinal_civil`), and its date is one `datetime`
has as long as the year is one of four digits (`civil_valid`).

Both count years from March, so that the leap day is the last day of a year.
-/

namespace Python

namespace Datetime

/-- The day, counted from 1970-01-01, of a civil date. -/
def ordinal (year month day : ℤ) : ℤ :=
  let y := if month ≤ 2 then year - 1 else year
  let era := y / 400
  let yoe := y - era * 400
  let mp := if 2 < month then month - 3 else month + 9
  let doy := (153 * mp + 2) / 5 + day - 1
  era * 146097 + (yoe * 365 + yoe / 4 - yoe / 100 + doy) - 719468

def isLeap (year : ℤ) : Bool := year % 4 = 0 ∧ (year % 100 ≠ 0 ∨ year % 400 = 0)

def daysInMonth (year month : ℤ) : ℤ :=
  if month = 2 then if isLeap year then 29 else 28
  else if month = 4 ∨ month = 6 ∨ month = 9 ∨ month = 11 then 30
  else 31

/-- A date `datetime` has. -/
def ValidDate (year month day : ℤ) : Prop :=
  1 ≤ year ∧ year ≤ 9999 ∧ 1 ≤ month ∧ month ≤ 12 ∧ 1 ≤ day ∧ day ≤ daysInMonth year month

instance (year month day : ℤ) : Decidable (ValidDate year month day) := by
  unfold ValidDate; infer_instance

/-- The instants of the years 1 to 9999. -/
def InRange (t : Instant) : Prop := -62135596800000000 ≤ t ∧ t < 253402300800000000

instance (t : Instant) : Decidable (InRange t) := by unfold InRange; infer_instance

/-- A day of a 400-year era that begins in March, by century, four-year cycle, year and
day of the year. -/
theorem exists_year (doe : ℤ) (h_nonneg : 0 ≤ doe) (h_lt : doe < 146097) :
    ∃ c q a doy : ℤ, doe = 36524 * c + 1461 * q + 365 * a + doy ∧ (0 ≤ c ∧ c ≤ 3) ∧
      (0 ≤ q ∧ q ≤ 24) ∧ (0 ≤ a ∧ a ≤ 3) ∧ (0 ≤ doy ∧ doy ≤ 365) ∧
      (doy = 365 → a = 3 ∧ (q = 24 → c = 3)) := by
  obtain ⟨c, hc⟩ : ∃ c, c = min (doe / 36524) 3 := ⟨_, rfl⟩
  obtain ⟨r, hr⟩ : ∃ r, r = doe - 36524 * c := ⟨_, rfl⟩
  have h_r : 0 ≤ r ∧ r ≤ 36524 ∧ (r = 36524 → c = 3) ∧ 0 ≤ c ∧ c ≤ 3 := by omega
  obtain ⟨q, hq⟩ : ∃ q, q = r / 1461 := ⟨_, rfl⟩
  obtain ⟨s, hs⟩ : ∃ s, s = r - 1461 * q := ⟨_, rfl⟩
  have h_s : 0 ≤ s ∧ s ≤ 1460 ∧ 0 ≤ q ∧ q ≤ 24 ∧ (q = 24 → s = 1460 → r = 36524) := by omega
  obtain ⟨a, ha⟩ : ∃ a, a = min (s / 365) 3 := ⟨_, rfl⟩
  have h_a : 0 ≤ a ∧ a ≤ 3 ∧ 0 ≤ s - 365 * a ∧ s - 365 * a ≤ 365 ∧ (s - 365 * a = 365 → a = 3) := by
    omega
  refine ⟨c, q, a, s - 365 * a, by omega, by omega, by omega, by omega, by omega, fun h => ?_⟩
  exact ⟨h_a.2.2.2.2 h, by omega⟩

/-- The year of the era, as `civil` computes it. -/
theorem yoe_eq {c q a doy doe : ℤ} (h : doe = 36524 * c + 1461 * q + 365 * a + doy)
    (hc : 0 ≤ c ∧ c ≤ 3) (hq : 0 ≤ q ∧ q ≤ 24) (ha : 0 ≤ a ∧ a ≤ 3) (h_doy : 0 ≤ doy ∧ doy ≤ 365)
    (h_last : doy = 365 → a = 3 ∧ (q = 24 → c = 3)) :
    (doe - doe / 1460 + doe / 36524 - doe / 146096) / 365 = 100 * c + 4 * q + a := by
  have h_cycle : doe / 1460 = 25 * c + q ∨ doe / 1460 = 25 * c + q + 1 := by omega
  have h_century : (doe < 36524 * (c + 1) ∧ doe < 146096) ∨ doe = 146096 := by
    by_cases hd : doy = 365
    · by_cases hq : q = 24 <;> omega
    · omega
  rcases h_century with ⟨h_lt, h_era⟩ | rfl
  · have h_div : doe / 36524 = c := by omega
    omega
  · omega

/-- The month that begins on or before a day of a year that begins in March, and the day
in it. -/
theorem month_bounds {doy mp : ℤ} (h_doy : 0 ≤ doy ∧ doy ≤ 365) (h_mp : mp = (5 * doy + 2) / 153) :
    (0 ≤ mp ∧ mp ≤ 11) ∧ (153 * mp + 2) / 5 ≤ doy ∧ doy < (153 * (mp + 1) + 2) / 5 ∧
      (10 ≤ mp ↔ 306 ≤ doy) := by
  omega

/-- The day of the year, as `civil` computes it. -/
theorem doy_eq (c : ℤ) {q a : ℤ} (doy : ℤ) (hq : 0 ≤ q ∧ q ≤ 24) (ha : 0 ≤ a ∧ a ≤ 3) :
    36524 * c + 1461 * q + 365 * a + doy - (365 * (100 * c + 4 * q + a) +
      (100 * c + 4 * q + a) / 4 - (100 * c + 4 * q + a) / 100) = doy := by
  have h_four : (100 * c + 4 * q + a) / 4 = 25 * c + q := by omega
  have h_hundred : (100 * c + 4 * q + a) / 100 = c := by omega
  rw [h_four, h_hundred]
  ring

/-- January and February belong to the year that begins in March before. -/
theorem month_le_two {mp : ℤ} (h_mp : 0 ≤ mp ∧ mp ≤ 11) :
    (if mp < 10 then mp + 3 else mp - 9) ≤ 2 ↔ 10 ≤ mp := by
  split_ifs <;> omega

/-- **The date of a day** is its year from March on, and the month and the day in it. -/
theorem civil_eq (day : ℤ) : ∃ era c q a doy mp : ℤ,
    day + 719468 = era * 146097 + (36524 * c + 1461 * q + 365 * a + doy) ∧ (0 ≤ c ∧ c ≤ 3) ∧
    (0 ≤ q ∧ q ≤ 24) ∧ (0 ≤ a ∧ a ≤ 3) ∧ (0 ≤ doy ∧ doy ≤ 365) ∧
    (doy = 365 → a = 3 ∧ (q = 24 → c = 3)) ∧ mp = (5 * doy + 2) / 153 ∧
    civil day = (100 * c + 4 * q + a + era * 400 + (if 10 ≤ mp then 1 else 0),
      if mp < 10 then mp + 3 else mp - 9, doy - (153 * mp + 2) / 5 + 1) := by
  obtain ⟨era, h_era⟩ : ∃ era, era = (day + 719468) / 146097 := ⟨_, rfl⟩
  obtain ⟨doe, h_doe⟩ : ∃ doe, doe = day + 719468 - era * 146097 := ⟨_, rfl⟩
  obtain ⟨c, q, a, doy, h_split, hc, hq, ha, h_doy, h_last⟩ :=
    exists_year doe (by omega) (by omega)
  obtain ⟨mp, h_mp⟩ : ∃ mp, mp = (5 * doy + 2) / 153 := ⟨_, rfl⟩
  refine ⟨era, c, q, a, doy, mp, by omega, hc, hq, ha, h_doy, h_last, h_mp, ?_⟩
  have h_yoe := yoe_eq h_split hc hq ha h_doy h_last
  have h_rest := doy_eq c doy hq ha
  have h_month := month_le_two (month_bounds h_doy h_mp).1
  rw [← h_split] at h_rest
  unfold civil
  dsimp only
  rw [← h_era, ← h_doe, h_yoe, h_rest, ← h_mp]
  simp only [h_month]

theorem march_year {mp y : ℤ} (h_mp : 0 ≤ mp ∧ mp ≤ 11) :
    (if (if mp < 10 then mp + 3 else mp - 9) ≤ 2 then y + (if 10 ≤ mp then 1 else 0) - 1
      else y + if 10 ≤ mp then 1 else 0) = y := by
  simp only [month_le_two h_mp]
  split_ifs <;> omega

theorem march_month {mp : ℤ} (h_mp : 0 ≤ mp ∧ mp ≤ 11) :
    (if 2 < (if mp < 10 then mp + 3 else mp - 9) then (if mp < 10 then mp + 3 else mp - 9) - 3
      else (if mp < 10 then mp + 3 else mp - 9) + 9) = mp := by
  split_ifs <;> omega

/-- **A day is the day of its date.** -/
theorem ordinal_civil (day : ℤ) :
    ordinal (civil day).1 (civil day).2.1 (civil day).2.2 = day := by
  obtain ⟨era, c, q, a, doy, mp, h_day, hc, hq, ha, h_doy, -, h_mp, h_civil⟩ := civil_eq day
  have h_month := (month_bounds h_doy h_mp).1
  have h_era : (100 * c + 4 * q + a + era * 400) / 400 = era := by omega
  have h_yoe : 100 * c + 4 * q + a + era * 400 - era * 400 = 100 * c + 4 * q + a := by ring
  have h_rest := doy_eq c doy hq ha
  rw [h_civil]
  unfold ordinal
  dsimp only
  rw [march_year h_month, march_month h_month, h_era, h_yoe]
  generalize (100 * c + 4 * q + a) / 4 = leaps at h_rest ⊢
  generalize (100 * c + 4 * q + a) / 100 = centuries at h_rest ⊢
  generalize (153 * mp + 2) / 5 = start
  linarith

theorem isLeap_iff {year : ℤ} :
    isLeap year = true ↔ year % 4 = 0 ∧ (year % 100 ≠ 0 ∨ year % 400 = 0) := by
  simp [isLeap]

/-- The last day of February, if it is the 29th, is one of a leap year. -/
theorem isLeap_of_last {era c q : ℤ} (hq : 0 ≤ q ∧ q ≤ 24)
    (h_last : q = 24 → c = 3) : isLeap (100 * c + 4 * q + 3 + era * 400 + 1) = true := by
  rw [isLeap_iff]
  refine ⟨by omega, ?_⟩
  by_cases h : q = 24
  · exact .inr (by omega)
  · exact .inl (by omega)

/-- A day is not behind the end of its month. -/
theorem day_le {doy mp : ℤ} (year : ℤ) (h_doy : 0 ≤ doy ∧ doy ≤ 365)
    (h_mp : mp = (5 * doy + 2) / 153) (h_leap : doy = 365 → isLeap year = true) :
    doy - (153 * mp + 2) / 5 + 1 ≤ daysInMonth year (if mp < 10 then mp + 3 else mp - 9) := by
  obtain ⟨⟨h_mp₀, h_mp₁⟩, h_from, h_to, -⟩ := month_bounds h_doy h_mp
  clear h_mp h_from
  interval_cases mp <;> simp [daysInMonth] <;> try omega
  -- February
  by_cases h_last : doy = 365
  · rw [h_leap h_last, if_pos rfl]
    omega
  · split <;> omega

/-- The years of the instants in range. -/
theorem year_bounds {day era c q a doy : ℤ}
    (h_day : day + 719468 = era * 146097 + (36524 * c + 1461 * q + 365 * a + doy))
    (hc : 0 ≤ c ∧ c ≤ 3) (hq : 0 ≤ q ∧ q ≤ 24) (ha : 0 ≤ a ∧ a ≤ 3) (h_doy : 0 ≤ doy ∧ doy ≤ 365)
    (h_first : -719162 ≤ day) (h_last : day < 2932897) :
    1 ≤ 100 * c + 4 * q + a + era * 400 + (if 306 ≤ doy then 1 else 0) ∧
      100 * c + 4 * q + a + era * 400 + (if 306 ≤ doy then 1 else 0) ≤ 9999 := by
  have h_era : 0 ≤ era ∧ era ≤ 24 := by omega
  split_ifs <;> omega

/-- **The date of a day is valid**, from the year 1 to the year 9999. -/
theorem civil_valid {day : ℤ} (h_first : -719162 ≤ day) (h_last : day < 2932897) :
    ValidDate (civil day).1 (civil day).2.1 (civil day).2.2 := by
  obtain ⟨era, c, q, a, doy, mp, h_day, hc, hq, ha, h_doy, h_leap, h_mp, h_civil⟩ := civil_eq day
  obtain ⟨⟨h_mp₀, h_mp₁⟩, h_from, h_to, h_march⟩ := month_bounds h_doy h_mp
  have h_month := day_le (100 * c + 4 * q + a + era * 400 + if 10 ≤ mp then 1 else 0)
    h_doy h_mp fun h_last => by
      obtain ⟨rfl, h_q⟩ := h_leap h_last
      rw [if_pos (h_march.mpr (by omega))]
      exact isLeap_of_last hq h_q
  have h_year := year_bounds h_day hc hq ha h_doy h_first h_last
  simp only [← h_march] at h_year
  rw [h_civil]
  clear h_day h_first h_last h_leap
  refine ⟨h_year.1, h_year.2, ?_, ?_, ?_, h_month⟩
  · dsimp only
    split_ifs <;> omega
  · dsimp only
    split_ifs <;> omega
  · dsimp only
    omega

end Datetime

end Python
