import Mathlib.Data.List.TakeDrop
import NotificationBroker.Python.Calendar

/-!
# Reading ISO 8601 texts

`Datetime.fromisoformat` is `datetime.fromisoformat`: dates as calendar dates or as
weeks, with and without separators, any character between date and time, times down to
fractions of a second, and `Z` or a numeric offset. `none` is a `ValueError`.

These are the documented forms. The readers of CPython take some further texts, which differ from
one release to the next: with something left over between the time and the offset, a fraction of
minutes or one without its mark, a null character, an offset of 60 minutes. They are `none` here.
Nothing that `isoformat` writes is such a text; a theorem about arbitrary texts names the reader on
both of its sides.

`Datetime.fromisoformat_isoformat_of_valid` is the round trip of every value a `datetime`
can have, and `Datetime.fromisoformat_isoformat` the one of the UTC values the system writes.
-/

namespace Python

namespace Datetime

/-! ### The reader -/

/-- A number of exactly `width` digits. -/
def takeDigits (width : ℕ) (text : List Char) : Option (ℕ × List Char) :=
  let digits := text.take width
  if digits.length = width ∧ digits.all Char.isDigit then
    some (Nat.ofDigitChars 10 digits 0, text.drop width)
  else none

/-- Where the date ends: at the eighth or tenth character of a calendar date, and for a
week date as far as its separators and digits go. -/
def dateLength (text : List Char) : ℕ :=
  let isDigitAt (i : ℕ) : Bool := (text[i]?).any Char.isDigit
  if text.length = 7 then 7
  else if text[4]? = some '-' then
    if text[5]? = some 'W' then
      if text[8]? = some '-' then if isDigitAt 10 then 8 else 10 else 8
    else 10
  else if text[4]? = some 'W' then
    let digits := ((text.drop 7).takeWhile Char.isDigit).length
    if digits < 2 then 7 + digits else if digits % 2 = 1 then 7 else 8
  else 8

/-- A separator that stands between all parts or between none. -/
def skipSeparator (separator : Char) (used : Bool) (text : List Char) : Option (List Char) :=
  if used then
    match text with
    | c :: rest => if c = separator then some rest else none
    | [] => none
  else some text

/-- The Monday of the first week of a year: the week of 4 January. -/
def firstMonday (year : ℤ) : ℤ :=
  let day := ordinal year 1 4
  day - (day + 3) % 7

/-- The day of a week date. -/
def weekDate (year week weekday : ℤ) : Option ℤ :=
  let weeks := (firstMonday (year + 1) - firstMonday year) / 7
  if 1 ≤ year ∧ year ≤ 9999 ∧ 1 ≤ week ∧ week ≤ weeks ∧ 1 ≤ weekday ∧ weekday ≤ 7 then
    some (firstMonday year + (week - 1) * 7 + (weekday - 1))
  else none

/-- The day of a date. -/
def parseDate (text : List Char) : Option ℤ := do
  let (year, rest) ← takeDigits 4 text
  let used := rest.head? = some '-'
  let rest ← skipSeparator '-' used rest
  if rest.head? = some 'W' then
    -- a week date, with the Monday if there is no day
    let (week, rest) ← takeDigits 2 (rest.drop 1)
    if rest = [] then weekDate year week 1
    else
      let rest ← skipSeparator '-' used rest
      let (weekday, rest) ← takeDigits 1 rest
      if rest = [] then weekDate year week weekday else none
  else
    let (month, rest) ← takeDigits 2 rest
    let rest ← skipSeparator '-' used rest
    let (day, rest) ← takeDigits 2 rest
    if rest = [] ∧ ValidDate year month day then some (ordinal year month day) else none

/-- The microseconds of a fraction: further digits are cut off. -/
def parseFraction (text : List Char) : Option ℕ :=
  match text with
  | c :: digits =>
    if (c = '.' ∨ c = ',') ∧ digits ≠ [] ∧ digits.all Char.isDigit then
      let kept := digits.take 6
      some (Nat.ofDigitChars 10 kept 0 * 10 ^ (6 - kept.length))
    else none
  | [] => none

/-- `HH[:?MM[:?SS[.f+]]]`, in hours, minutes, seconds and microseconds. -/
def parseClock (text : List Char) : Option (ℕ × ℕ × ℕ × ℕ) := do
  let (hour, rest) ← takeDigits 2 text
  if rest = [] then some (hour, 0, 0, 0)
  else
    let used := rest.head? = some ':'
    let rest ← skipSeparator ':' used rest
    let (minute, rest) ← takeDigits 2 rest
    if rest = [] then some (hour, minute, 0, 0)
    else
      let rest ← skipSeparator ':' used rest
      let (second, rest) ← takeDigits 2 rest
      if rest = [] then some (hour, minute, second, 0)
      else
        let micros ← parseFraction rest
        some (hour, minute, second, micros)

/-- Hours, minutes, seconds and microseconds as microseconds. -/
def clockMicros (clock : ℕ × ℕ × ℕ × ℕ) : ℤ :=
  ((clock.1 * 3600 + clock.2.1 * 60 + clock.2.2.1) * 1000000 + clock.2.2.2 : ℕ)

/-- A time of a day, or an offset shorter than a day. -/
def ValidClock (clock : ℕ × ℕ × ℕ × ℕ) : Prop :=
  clock.1 < 24 ∧ clock.2.1 < 60 ∧ clock.2.2.1 < 60

instance (clock : ℕ × ℕ × ℕ × ℕ) : Decidable (ValidClock clock) := by
  unfold ValidClock; infer_instance

/-- An offset, in microseconds; `none` where there is none. -/
def parseOffset (text : List Char) : Option (Option ℤ) :=
  match text with
  | [] => some none
  | 'Z' :: rest => if rest = [] then some (some 0) else none
  | sign :: rest => do
    let clock ← parseClock rest
    if ValidClock clock then
      some (some (if sign = '-' then -clockMicros clock else clockMicros clock))
    else none

/-- The time of the day in microseconds, and the offset. Midnight may be written as the
24th hour of the day before. -/
def parseTime (text : List Char) : Option (ℤ × Option ℤ) := do
  let (time, zone) := text.span fun c => ¬ (c = '+' ∨ c = '-' ∨ c = 'Z')
  let clock ← parseClock time
  let offset ← parseOffset zone
  if ValidClock clock ∨ clock = (24, 0, 0, 0) then some (clockMicros clock, offset) else none

/-- `datetime.fromisoformat(text)`. -/
def fromisoformat (text : String) : Option Datetime := do
  let chars := text.toList
  if chars.length < 7 then none
  else
    let date ← parseDate (chars.take (dateLength chars))
    let (time, offset) ← match chars.drop (dateLength chars) with
      | [] => some (0, none)
      -- whatever the character between the date and the time is
      | _ :: rest => parseTime rest
    let wall := date * 86400000000 + time
    if InRange wall then some ⟨wall, offset⟩ else none

/-! ### The values there are -/

/-- The values a `datetime` can have: a wall clock of the years 1 to 9999, and an offset
shorter than a day where there is one. -/
structure Valid (value : Datetime) : Prop where
  wall : InRange value.wall
  offset : ∀ offset ∈ value.utcoffset, -86400000000 < offset ∧ offset < 86400000000

theorem valid_ofInstant {t : Instant} (h : InRange t) : (ofInstant t).Valid := by
  refine ⟨h, fun offset h_offset => ?_⟩
  obtain rfl := Option.some.inj h_offset
  decide

/-- Digits are fewer than a power of ten. -/
theorem ofDigitChars_lt {digits : List Char} (h : ∀ c ∈ digits, c.isDigit = true) (init : ℕ) :
    Nat.ofDigitChars 10 digits init < (init + 1) * 10 ^ digits.length := by
  induction digits generalizing init with
  | nil => simp
  | cons c rest ih =>
    have h_digit : c.toNat - '0'.toNat < 10 := by
      have h_c := Char.isDigit_iff_toNat.mp (h c List.mem_cons_self)
      have h_zero : '0'.toNat = 48 := rfl
      have h_nine : '9'.toNat = 57 := rfl
      omega
    have h_rest := ih (fun d h_d => h d (List.mem_cons_of_mem c h_d))
      (10 * init + (c.toNat - '0'.toNat))
    rw [Nat.ofDigitChars_cons, List.length_cons, pow_succ]
    calc Nat.ofDigitChars 10 rest (10 * init + (c.toNat - '0'.toNat))
        < (10 * init + (c.toNat - '0'.toNat) + 1) * 10 ^ rest.length := h_rest
      _ ≤ (10 * (init + 1)) * 10 ^ rest.length := Nat.mul_le_mul_right _ (by omega)
      _ = (init + 1) * (10 ^ rest.length * 10) := by ring

theorem parseFraction_lt {text : List Char} {micros : ℕ} (h : parseFraction text = some micros) :
    micros < 1000000 := by
  unfold parseFraction at h
  split at h
  next c digits =>
    obtain ⟨h_digits, h⟩ := Option.ite_none_right_eq_some.mp h
    obtain rfl := Option.some.inj h
    have h_all : ∀ d ∈ digits.take 6, d.isDigit = true := fun d h_d =>
      List.all_eq_true.mp h_digits.2.2 d (List.mem_of_mem_take h_d)
    have h_lt := ofDigitChars_lt h_all 0
    have h_length : (digits.take 6).length ≤ 6 := List.length_take_le 6 digits
    -- `k` digits are below `10 ^ k`, and the others are filled up with zeros
    generalize digits.take 6 = kept at h_lt h_length ⊢
    calc Nat.ofDigitChars 10 kept 0 * 10 ^ (6 - kept.length)
        < 10 ^ kept.length * 10 ^ (6 - kept.length) :=
          Nat.mul_lt_mul_of_pos_right (by simpa using h_lt) (by positivity)
      _ = 1000000 := by rw [← pow_add, Nat.add_sub_cancel' h_length]; rfl
  next => exact absurd h (by simp)

theorem parseClock_micros_lt {text : List Char} {clock : ℕ × ℕ × ℕ × ℕ}
    (h : parseClock text = some clock) : clock.2.2.2 < 1000000 := by
  unfold parseClock at h
  obtain ⟨⟨hour, rest⟩, -, h⟩ := Option.bind_eq_some_iff.mp h
  dsimp only at h
  split at h
  · obtain rfl := Option.some.inj h
    exact Nat.zero_lt_succ _
  obtain ⟨rest, -, h⟩ := Option.bind_eq_some_iff.mp h
  obtain ⟨⟨minute, rest⟩, -, h⟩ := Option.bind_eq_some_iff.mp h
  dsimp only at h
  split at h
  · obtain rfl := Option.some.inj h
    exact Nat.zero_lt_succ _
  obtain ⟨rest, -, h⟩ := Option.bind_eq_some_iff.mp h
  obtain ⟨⟨second, rest⟩, -, h⟩ := Option.bind_eq_some_iff.mp h
  dsimp only at h
  split at h
  · obtain rfl := Option.some.inj h
    exact Nat.zero_lt_succ _
  -- only a fraction has microseconds
  obtain ⟨micros, h_micros, h⟩ := Option.bind_eq_some_iff.mp h
  obtain rfl := Option.some.inj h
  exact parseFraction_lt h_micros

theorem parseOffset_bounds {text : List Char} {offset : ℤ}
    (h : parseOffset text = some (some offset)) :
    -86400000000 < offset ∧ offset < 86400000000 := by
  unfold parseOffset at h
  split at h
  next => exact absurd h (by simp)
  next =>
    obtain ⟨-, h⟩ := Option.ite_none_right_eq_some.mp h
    obtain rfl := Option.some.inj (Option.some.inj h)
    decide
  next sign rest _ =>
    obtain ⟨⟨hours, minutes, seconds, micros⟩, h_clock, h⟩ := Option.bind_eq_some_iff.mp h
    obtain ⟨h_valid, h⟩ := Option.ite_none_right_eq_some.mp h
    obtain rfl := Option.some.inj (Option.some.inj h)
    -- a clock time is less than a day, with either sign
    have h_micros : micros < 1000000 := parseClock_micros_lt h_clock
    have h_hours : hours < 24 ∧ minutes < 60 ∧ seconds < 60 := h_valid
    have h_total : 0 ≤ clockMicros (hours, minutes, seconds, micros) ∧
        clockMicros (hours, minutes, seconds, micros) < 86400000000 := by
      dsimp only [clockMicros]
      omega
    generalize clockMicros (hours, minutes, seconds, micros) = total at h_total ⊢
    split <;> omega

theorem valid_of_inRange {wall : ℤ} {offset : Option ℤ} {value : Datetime}
    (h_offset : ∀ o ∈ offset, -86400000000 < o ∧ o < 86400000000)
    (h : (if InRange wall then some (⟨wall, offset⟩ : Datetime) else none) = some value) :
    value.Valid := by
  obtain ⟨h_range, h⟩ := Option.ite_none_right_eq_some.mp h
  obtain rfl := Option.some.inj h
  exact ⟨h_range, h_offset⟩

/-- **What is read is a value there is.** -/
theorem fromisoformat_valid {text : String} {value : Datetime}
    (h : fromisoformat text = some value) : value.Valid := by
  have h_naive : ∀ o ∈ (none : Option ℤ), -86400000000 < o ∧ o < 86400000000 :=
    fun _ h_o => absurd h_o (by simp)
  unfold fromisoformat at h
  dsimp only at h
  split at h
  · exact absurd h (by simp)
  · obtain ⟨date, -, h⟩ := Option.bind_eq_some_iff.mp h
    -- an offset is read behind a time only
    split at h
    · exact valid_of_inRange h_naive h
    · obtain ⟨⟨time, zone⟩, h_time, h⟩ := Option.bind_eq_some_iff.mp h
      refine valid_of_inRange (fun offset h_offset => ?_) h
      obtain rfl : zone = some offset := h_offset
      obtain ⟨clock, -, h_time⟩ := Option.bind_eq_some_iff.mp h_time
      obtain ⟨offset', h_offset', h_time⟩ := Option.bind_eq_some_iff.mp h_time
      obtain ⟨-, h_time⟩ := Option.ite_none_right_eq_some.mp h_time
      obtain rfl : offset' = some offset := (Prod.ext_iff.mp (Option.some.inj h_time)).2
      exact parseOffset_bounds h_offset'

/-! ### Reading back what `isoformat` writes -/

section RoundTrip

variable {width n : ℕ} {rest : List Char}

theorem length_padded (h_width : 0 < width) (h : n < 10 ^ width) :
    (padded width n).length = width := by
  have h_length := (Nat.length_toDigits_le_iff (by decide : 1 < 10) h_width).mpr h
  simp only [padded, List.length_append, List.length_replicate]
  omega

theorem isDigit_padded : ∀ c ∈ padded width n, c.isDigit = true := by
  refine List.forall_mem_append.mpr ⟨fun c hc => ?_, fun c hc => ?_⟩
  · rw [List.eq_of_mem_replicate hc]
    decide
  · exact Nat.isDigit_of_mem_toDigits (by decide) (by decide) hc

theorem ofDigitChars_padded : Nat.ofDigitChars 10 (padded width n) 0 = n := by
  rw [padded, Nat.ofDigitChars_append, Nat.ofDigitChars_replicate_zero, Nat.mul_zero,
    Nat.ofDigitChars_ten_toDigits]

/-- A padded number is read back. -/
theorem takeDigits_padded (rest : List Char) (h_width : 0 < width) (h : n < 10 ^ width) :
    takeDigits width (padded width n ++ rest) = some (n, rest) := by
  have h_length := length_padded h_width h
  have h_take : (padded width n ++ rest).take width = padded width n := List.take_left' h_length
  have h_drop : (padded width n ++ rest).drop width = rest := List.drop_left' h_length
  have h_digits : (padded width n).all Char.isDigit = true := List.all_eq_true.mpr isDigit_padded
  simp only [takeDigits, h_take, h_drop, h_length, h_digits, and_self, if_true,
    ofDigitChars_padded]

theorem parseFraction_padded {micros : ℕ} (h : micros < 1000000) :
    parseFraction ('.' :: padded 6 micros) = some micros := by
  have h_length := length_padded (by decide : 0 < 6) h
  have h_digits : (padded 6 micros).all Char.isDigit = true := List.all_eq_true.mpr isDigit_padded
  have h_ne : padded 6 micros ≠ [] := fun h_nil => by simp [h_nil] at h_length
  have h_take : (padded 6 micros).take 6 = padded 6 micros := List.take_of_length_le h_length.le
  simp only [parseFraction, h_ne, ne_eq, not_false_eq_true, h_digits, h_take, h_length,
    ofDigitChars_padded, true_or, and_self, if_true, Nat.sub_self, pow_zero, Nat.mul_one]

/-- **A time of the day is read back.** -/
theorem parseClock_clockText {seconds micros : ℕ} (h_seconds : seconds < 86400)
    (h_micros : micros < 1000000) :
    parseClock (clockText seconds micros) =
      some (seconds / 3600, seconds / 60 % 60, seconds % 60, micros) := by
  have h_hour := takeDigits_padded (n := seconds / 3600) (':' :: (padded 2 (seconds / 60 % 60) ++
    ':' :: (padded 2 (seconds % 60) ++ if micros = 0 then [] else '.' :: padded 6 micros)))
    (by decide : 0 < 2) (by omega)
  have h_minute := takeDigits_padded (n := seconds / 60 % 60) (':' :: (padded 2 (seconds % 60) ++
    if micros = 0 then [] else '.' :: padded 6 micros)) (by decide : 0 < 2) (by omega)
  have h_second := takeDigits_padded (n := seconds % 60)
    (if micros = 0 then [] else '.' :: padded 6 micros) (by decide : 0 < 2) (by omega)
  -- the text as two digits, a colon and what is left, twice over
  have h_text : clockText seconds micros = padded 2 (seconds / 3600) ++ ':' :: (padded 2
      (seconds / 60 % 60) ++ ':' :: (padded 2 (seconds % 60) ++
        if micros = 0 then [] else '.' :: padded 6 micros)) := by
    simp [clockText]
  rw [h_text, parseClock, h_hour]
  simp only [Option.bind_eq_bind, Option.bind_some, reduceCtorEq, if_false, List.head?_cons,
    skipSeparator, decide_true, if_true, h_minute, h_second]
  -- whole seconds are written without a fraction
  by_cases h_zero : micros = 0
  · simp only [h_zero, if_true]
  · simp only [h_zero, if_false, reduceCtorEq, parseFraction_padded h_micros, Option.bind_some]

theorem mem_clockText {seconds micros : ℕ} {c : Char} (h : c ∈ clockText seconds micros) :
    c.isDigit = true ∨ c = ':' ∨ c = '.' := by
  simp only [clockText, List.mem_append, List.mem_cons] at h
  rcases h with ((h | rfl | h) | rfl | h) | h
  · exact .inl (isDigit_padded c h)
  · exact .inr (.inl rfl)
  · exact .inl (isDigit_padded c h)
  · exact .inr (.inl rfl)
  · exact .inl (isDigit_padded c h)
  · split at h
    · exact absurd h List.not_mem_nil
    · rcases List.mem_cons.mp h with rfl | h
      · exact .inr (.inr rfl)
      · exact .inl (isDigit_padded c h)

/-- **A time of the day is read back**, with what is read of the zone behind it. -/
theorem parseTime_clockText {seconds micros : ℕ} (h_seconds : seconds < 86400)
    (h_micros : micros < 1000000) {zone : List Char} {offset : Option ℤ}
    (h_zone : ∀ c ∈ zone.head?, c = '+' ∨ c = '-') (h_offset : parseOffset zone = some offset) :
    parseTime (clockText seconds micros ++ zone) =
      some (((seconds * 1000000 + micros : ℕ) : ℤ), offset) := by
  -- no character of the clock time starts a zone, so the text is cut where the zone begins
  have h_plain : ∀ c ∈ clockText seconds micros,
      decide (¬ (c = '+' ∨ c = '-' ∨ c = 'Z')) = true := by
    intro c hc
    rcases mem_clockText hc with h_digit | rfl | rfl
    · refine decide_eq_true ?_
      rintro (rfl | rfl | rfl) <;> exact absurd h_digit (by decide)
    · decide
    · decide
  have h_span : (clockText seconds micros ++ zone).span
      (fun c => decide (¬ (c = '+' ∨ c = '-' ∨ c = 'Z'))) = (clockText seconds micros, zone) := by
    rw [List.span_eq_takeWhile_dropWhile, List.takeWhile_append_of_pos h_plain,
      List.dropWhile_append_of_pos h_plain]
    cases zone with
    | nil => simp
    | cons c rest => rcases h_zone c rfl with rfl | rfl <;> simp
  have h_clock : ValidClock (seconds / 3600, seconds / 60 % 60, seconds % 60, micros) := by
    refine ⟨?_, ?_, ?_⟩ <;> dsimp only <;> omega
  have h_total : seconds / 3600 * 3600 + seconds / 60 % 60 * 60 + seconds % 60 = seconds := by omega
  rw [parseTime, h_span]
  simp only [parseClock_clockText h_seconds h_micros, h_offset, Option.bind_eq_bind,
    Option.bind_some, h_clock, true_or, if_true, clockMicros, h_total]

/-- Hours and minutes are read back. -/
theorem parseClock_minutes {seconds : ℕ} (h_seconds : seconds < 86400) :
    parseClock (padded 2 (seconds / 3600) ++ ':' :: padded 2 (seconds / 60 % 60)) =
      some (seconds / 3600, seconds / 60 % 60, 0, 0) := by
  have h_hour := takeDigits_padded (n := seconds / 3600) (':' :: padded 2 (seconds / 60 % 60))
    (by decide : 0 < 2) (by omega)
  have h_minute := takeDigits_padded (n := seconds / 60 % 60) [] (by decide : 0 < 2) (by omega)
  rw [List.append_nil] at h_minute
  rw [parseClock, h_hour]
  simp only [Option.bind_eq_bind, Option.bind_some, reduceCtorEq, if_false, List.head?_cons,
    skipSeparator, decide_true, if_true, h_minute]

/-- An offset begins with its sign. -/
theorem offsetText_cons (offset : ℤ) : ∃ rest, offsetText offset =
    (if offset < 0 then '-' else '+') :: rest := by
  unfold offsetText
  dsimp only
  split <;> exact ⟨_, rfl⟩

theorem head_offsetText {offset : ℤ} : ∀ c ∈ (offsetText offset).head?, c = '+' ∨ c = '-' := by
  intro c h_c
  obtain ⟨rest, h_text⟩ := offsetText_cons offset
  rw [h_text] at h_c
  obtain rfl := Option.some.inj h_c
  split
  · exact .inr rfl
  · exact .inl rfl

theorem parseOffset_sign {offset : ℤ} {rest : List Char} {clock : ℕ × ℕ × ℕ × ℕ}
    (h_clock : parseClock rest = some clock) (h_valid : ValidClock clock)
    (h_micros : clockMicros clock = offset.natAbs) :
    parseOffset ((if offset < 0 then '-' else '+') :: rest) = some (some offset) := by
  by_cases h_neg : offset < 0
  · have h_offset : -clockMicros clock = offset := by omega
    simp [parseOffset, h_neg, h_clock, h_valid, h_offset]
  · have h_offset : clockMicros clock = offset := by omega
    simp [parseOffset, h_neg, h_clock, h_valid, h_offset]

/-- **An offset is read back.** -/
theorem parseOffset_offsetText {offset : ℤ}
    (h : -86400000000 < offset ∧ offset < 86400000000) :
    parseOffset (offsetText offset) = some (some offset) := by
  obtain ⟨total, h_total⟩ : ∃ total, total = offset.natAbs := ⟨_, rfl⟩
  have h_seconds : total / 1000000 < 86400 := by omega
  have h_micros : total % 1000000 < 1000000 := by omega
  unfold offsetText
  dsimp only
  rw [← h_total]
  split
  next h_minutes =>
    -- whole minutes are written without seconds
    refine parseOffset_sign (parseClock_minutes h_seconds) ⟨?_, ?_, ?_⟩ ?_
    · dsimp only
      omega
    · dsimp only
      omega
    · exact Nat.zero_lt_succ _
    · dsimp only [clockMicros]
      omega
  next =>
    refine parseOffset_sign (parseClock_clockText h_seconds h_micros) ⟨?_, ?_, ?_⟩ ?_
    · dsimp only
      omega
    · dsimp only
      omega
    · dsimp only
      omega
    · dsimp only [clockMicros]
      omega

theorem validDate_lt {year month day : ℕ} (h : ValidDate year month day) :
    year < 10000 ∧ month < 100 ∧ day < 100 := by
  obtain ⟨-, h_year, -, h_month, -, h_day⟩ := h
  have h_days : daysInMonth year month ≤ 31 := by
    unfold daysInMonth
    split_ifs <;> omega
  omega

/-- **A date is read back.** -/
theorem parseDate_padded {year month day : ℕ} (h : ValidDate year month day) :
    parseDate (padded 4 year ++ '-' :: (padded 2 month ++ '-' :: padded 2 day)) =
      some (ordinal year month day) := by
  have h_bounds := validDate_lt h
  have h_year := takeDigits_padded ('-' :: (padded 2 month ++ '-' :: padded 2 day))
    (by decide : 0 < 4) h_bounds.1
  have h_month := takeDigits_padded ('-' :: padded 2 day) (by decide : 0 < 2) h_bounds.2.1
  have h_day := takeDigits_padded [] (by decide : 0 < 2) h_bounds.2.2
  rw [List.append_nil] at h_day
  -- the month is not taken for a week
  have h_week : (padded 2 month ++ '-' :: padded 2 day).head? ≠ some 'W' := by
    intro h_head
    rcases List.mem_append.mp (List.mem_of_mem_head? h_head) with h_mem | h_mem
    · exact absurd (isDigit_padded _ h_mem) (by decide)
    · rcases List.mem_cons.mp h_mem with h_eq | h_mem
      · exact absurd h_eq (by decide)
      · exact absurd (isDigit_padded _ h_mem) (by decide)
  rw [parseDate, h_year]
  simp only [Option.bind_eq_bind, Option.bind_some, List.head?_cons, decide_true, skipSeparator,
    if_true, h_week, if_false, h_month, h_day, h, and_self]

/-- A calendar date with separators is ten characters long. -/
theorem dateLength_padded {year month day : ℕ} (h_year : year < 10000) (h_month : month < 100)
    (h_day : day < 100) (rest : List Char) :
    dateLength (padded 4 year ++ '-' :: (padded 2 month ++ '-' :: padded 2 day) ++ 'T' :: rest) =
      10 := by
  obtain ⟨a, b, c, d, h_a⟩ : ∃ a b c d, padded 4 year = [a, b, c, d] :=
    List.length_eq_four.mp (length_padded (by decide) h_year)
  obtain ⟨e, f, h_e⟩ : ∃ e f, padded 2 month = [e, f] :=
    List.length_eq_two.mp (length_padded (by decide) h_month)
  obtain ⟨g, i, h_g⟩ : ∃ g i, padded 2 day = [g, i] :=
    List.length_eq_two.mp (length_padded (by decide) h_day)
  have h_digit : e.isDigit = true := isDigit_padded e (h_e ▸ List.mem_cons_self)
  -- a digit in place six: a calendar date, not one of a week
  have h_week : e ≠ 'W' := by
    rintro rfl
    exact absurd h_digit (by decide)
  rw [h_a, h_e, h_g]
  simp [dateLength, h_week]

/-- The zone as `isoformat` writes it. -/
def zoneText : Option ℤ → List Char
  | none => []
  | some offset => offsetText offset

/-- **A value is read back**, whatever its offset. -/
theorem fromisoformat_isoformat_of_valid {value : Datetime} (h : value.Valid) :
    fromisoformat value.isoformat = some value := by
  obtain ⟨t, zone⟩ := value
  obtain ⟨h_range, h_zone⟩ := h
  dsimp only at h_range h_zone
  have h_bounds : -62135596800000000 ≤ t ∧ t < 253402300800000000 := h_range
  obtain ⟨day, h_day⟩ : ∃ day, day = t / 86400000000 := ⟨_, rfl⟩
  obtain ⟨micros, h_micros⟩ : ∃ micros, micros = (t % 86400000000).toNat := ⟨_, rfl⟩
  have h_split : t = day * 86400000000 + micros ∧ micros < 86400000000 := by omega
  have h_valid := civil_valid (by omega : -719162 ≤ day) (by omega)
  have h_ordinal := ordinal_civil day
  obtain ⟨year, month, date, h_civil⟩ : ∃ year month date : ℕ,
      civil day = ((year : ℤ), (month : ℤ), (date : ℤ)) := by
    obtain ⟨h_year, -, h_month, -, h_date, -⟩ := h_valid
    refine ⟨(civil day).1.toNat, (civil day).2.1.toNat, (civil day).2.2.toNat, ?_⟩
    rw [Int.toNat_of_nonneg (by omega), Int.toNat_of_nonneg (by omega),
      Int.toNat_of_nonneg (by omega)]
  rw [h_civil] at h_valid h_ordinal
  dsimp only at h_valid h_ordinal
  have h_text : (isoformat ⟨t, zone⟩).toList =
      padded 4 year ++ '-' :: (padded 2 month ++ '-' :: padded 2 date) ++
        'T' :: (clockText (micros / 1000000) (micros % 1000000) ++ zoneText zone) := by
    rw [isoformat, String.toList_ofList]
    dsimp only
    rw [← h_day, ← h_micros, h_civil]
    cases zone <;> simp [zoneText]
  -- the zone, where there is one, is read back
  have h_head : ∀ c ∈ (zoneText zone).head?, c = '+' ∨ c = '-' := by
    cases zone with
    | none => exact fun c h_c => absurd h_c (by simp [zoneText])
    | some offset => exact head_offsetText
  have h_offset : parseOffset (zoneText zone) = some zone := by
    cases zone with
    | none => rfl
    | some offset => exact parseOffset_offsetText (h_zone offset rfl)
  have h_lt := validDate_lt h_valid
  have h_length := dateLength_padded h_lt.1 h_lt.2.1 h_lt.2.2
    (clockText (micros / 1000000) (micros % 1000000) ++ zoneText zone)
  have h_date := parseDate_padded h_valid
  have h_time := parseTime_clockText (by omega : micros / 1000000 < 86400)
    (by omega : micros % 1000000 < 1000000) h_head h_offset
  have h_ten : (padded 4 year ++ '-' :: (padded 2 month ++ '-' :: padded 2 date)).length = 10 := by
    simp [length_padded (by decide : 0 < 4) h_lt.1,
      length_padded (by decide : 0 < 2) h_lt.2.1,
      length_padded (by decide : 0 < 2) h_lt.2.2]
  generalize padded 4 year ++ '-' :: (padded 2 month ++ '-' :: padded 2 date) = dateText at *
  generalize clockText (micros / 1000000) (micros % 1000000) ++ zoneText zone = timeText at *
  have h_long : ¬ (isoformat ⟨t, zone⟩).toList.length < 7 := by
    rw [h_text, List.length_append, h_ten]
    omega
  have h_wall :
      day * 86400000000 + ((micros / 1000000 * 1000000 + micros % 1000000 : ℕ) : ℤ) = t := by
    omega
  have h_take : (dateText ++ 'T' :: timeText).take 10 = dateText := List.take_left' h_ten
  have h_drop : (dateText ++ 'T' :: timeText).drop 10 = 'T' :: timeText := List.drop_left' h_ten
  rw [fromisoformat, if_neg h_long, h_text, h_length, h_take, h_drop, h_date]
  simp only [Option.bind_eq_bind, Option.bind_some, h_time, h_ordinal, h_wall, h_range, if_true]

/-- **A UTC value is read back**, in the years `datetime` has. -/
theorem fromisoformat_isoformat {t : ℤ} (h : InRange t) :
    fromisoformat (ofInstant t).isoformat = some (ofInstant t) :=
  fromisoformat_isoformat_of_valid (valid_ofInstant h)

end RoundTrip

end Datetime

end Python
