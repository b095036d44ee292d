import Mathlib.Data.List.Basic
import Mathlib.Data.Nat.Basic
import Mathlib.Data.Fin.Basic
import Mathlib.Tactic.Ring

/-!
# Python strings, UUIDs and datetimes

The parts of Python's `str`, `uuid.UUID` and `datetime` the system relies on.

* `strip` removes the characters `str.strip` takes for whitespace.
* `intOfHex` is `int(text, 16)`: besides the digits a text may have white space
  around it, a sign, a prefix, underscores, and digits of other scripts.
* A `UUID` is a 128-bit integer; `UUID.str` is its canonical text and
  `UUID.parse` the constructor on a string. Parsing the canonical text gives the
  identifier back (`UUID.parse_str`).
* A `Datetime` is a wall-clock reading with an optional UTC offset, both in
  microseconds; an `Instant` counts microseconds from the Unix epoch.
-/

namespace Python

/-! ### Strings -/

/-- The characters for which `str.isspace` holds, which are those `str.strip`
removes. -/
def isSpace (c : Char) : Bool :=
  let n := c.toNat
  (9 ≤ n && n ≤ 13) || (28 ≤ n && n ≤ 32) || n == 0x85 || n == 0xA0 || n == 0x1680 ||
    (0x2000 ≤ n && n ≤ 0x200A) || n == 0x2028 || n == 0x2029 || n == 0x202F ||
    n == 0x205F || n == 0x3000

/-- `value.strip()`. -/
def strip (value : List Char) : List Char :=
  ((value.dropWhile isSpace).reverse.dropWhile isSpace).reverse

/-- `text.replace(pattern, "")`: the occurrences are removed from left to right;
`skip` counts the characters of an occurrence still to be dropped. -/
def removeAll (pattern : List Char) : ℕ → List Char → List Char
  | _, [] => []
  | skip + 1, _ :: rest => removeAll pattern skip rest
  | 0, c :: rest =>
    if pattern.isPrefixOf (c :: rest) then removeAll pattern (pattern.length - 1) rest
    else c :: removeAll pattern 0 rest

theorem removeAll_of_notMem {c : Char} {pattern text : List Char} (h : c ∉ text) :
    removeAll (c :: pattern) 0 text = text := by
  induction text with
  | nil => rfl
  | cons d rest ih =>
    have h_ne : c ≠ d := fun h_eq => h (h_eq ▸ List.mem_cons_self)
    have h_rest : c ∉ rest := fun h_mem => h (List.mem_cons_of_mem d h_mem)
    simp [removeAll, List.isPrefixOf, h_ne, ih h_rest]

/-- `text.strip("{}")`. -/
def stripBraces (text : List Char) : List Char :=
  let brace (c : Char) := c == '{' || c == '}'
  ((text.dropWhile brace).reverse.dropWhile brace).reverse

theorem dropWhile_of_forall {p : Char → Bool} {text : List Char}
    (h : ∀ c ∈ text, p c = false) : text.dropWhile p = text := by
  cases text with
  | nil => rfl
  | cons c rest => rw [List.dropWhile_cons_of_neg (by simp [h c List.mem_cons_self])]

/-! ### UUIDs -/

/-- `uuid.UUID`: a 128-bit integer, ordered as such. -/
abbrev UUID := Fin (2 ^ 128)

namespace UUID

instance : NeZero (2 ^ 128) := ⟨by decide⟩

instance : LawfulBEq UUID := inferInstance

/-- `n` as `width` hexadecimal digits. -/
def hexText : ℕ → ℕ → List Char
  | 0, _ => []
  | width + 1, n => hexText width (n / 16) ++ [Nat.digitChar (n % 16)]

/-- The digits in groups of 8, 4, 4, 4 and 12. -/
def hyphenate (hex : List Char) : List Char :=
  hex.take 8 ++ '-' :: (hex.drop 8).take 4 ++ '-' :: (hex.drop 12).take 4 ++
    '-' :: (hex.drop 16).take 4 ++ '-' :: hex.drop 20

/-- `str(u)`. -/
def str (u : UUID) : String := String.ofList (hyphenate (hexText 32 u.val))

/-- The value of a hexadecimal digit. -/
def hexValue (c : Char) : Option ℕ :=
  if '0' ≤ c ∧ c ≤ '9' then some (c.toNat - 48)
  else if 'a' ≤ c ∧ c ≤ 'f' then some (c.toNat - 87)
  else if 'A' ≤ c ∧ c ≤ 'F' then some (c.toNat - 55)
  else none

/-- The number that hexadecimal digits stand for. -/
def parseHex (text : List Char) : Option ℕ :=
  text.foldlM (fun n c => (hexValue c).map (n * 16 + ·)) 0

/-- The zeros of Unicode: each begins a run of ten decimal digits. -/
def decimalZeros : List ℕ := [
  0x30, 0x660, 0x6F0, 0x7C0, 0x966, 0x9E6, 0xA66, 0xAE6, 0xB66, 0xBE6, 0xC66, 0xCE6, 0xD66, 0xDE6,
  0xE50, 0xED0, 0xF20, 0x1040, 0x1090, 0x17E0, 0x1810, 0x1946, 0x19D0, 0x1A80, 0x1A90, 0x1B50,
  0x1BB0, 0x1C40, 0x1C50, 0xA620, 0xA8D0, 0xA900, 0xA9D0, 0xA9F0, 0xAA50, 0xABF0, 0xFF10, 0x104A0,
  0x10D30, 0x10D40, 0x11066, 0x110F0, 0x11136, 0x111D0, 0x112F0, 0x11450, 0x114D0, 0x11650, 0x116C0,
  0x116D0, 0x116DA, 0x11730, 0x118E0, 0x11950, 0x11BF0, 0x11C50, 0x11D50, 0x11DA0, 0x11F50, 0x16130,
  0x16A60, 0x16AC0, 0x16B50, 0x16D70, 0x1CCF0, 0x1D7CE, 0x1D7D8, 0x1D7E2, 0x1D7EC, 0x1D7F6, 0x1E140,
  0x1E2F0, 0x1E4F0, 0x1E5F1, 0x1E950, 0x1FBF0]

/-- What `int` takes a character for: other white space for a blank, and a decimal digit of
another script for the digit. -/
def intChar (c : Char) : Char :=
  if c.toNat < 127 then c
  else if isSpace c then ' '
  else
    match decimalZeros.find? fun z => z ≤ c.toNat ∧ c.toNat < z + 10 with
    | some z => Nat.digitChar (c.toNat - z)
    | none => '?'

/-- A blank of C. -/
def isBlank (c : Char) : Bool := (9 ≤ c.toNat && c.toNat ≤ 13) || c == ' '

/-- The number of digits with single underscores between them, and blanks behind. `n` is the
number so far, and `digit` says that a digit is the character before. -/
def readHex (n : ℕ) (digit : Bool) : List Char → Option ℕ
  | [] => if digit then some n else none
  | c :: rest =>
    match hexValue c with
    | some value => readHex (n * 16 + value) true rest
    | none =>
      if ¬ digit then none
      else if c = '_' then readHex n false rest
      else if (c :: rest).all isBlank then some n
      else none

/-- The text behind a prefix `0x`, and behind an underscore that follows it. -/
def dropPrefix : List Char → List Char
  | '0' :: x :: rest =>
    if x = 'x' ∨ x = 'X' then
      match rest with
      | '_' :: rest => rest
      | rest => rest
    else '0' :: x :: rest
  | text => text

/-- `int(text, 16)`; `none` is a `ValueError`. -/
def intOfHex (text : List Char) : Option ℤ :=
  match (text.map intChar).dropWhile isBlank with
  | '+' :: rest => (readHex 0 false (dropPrefix rest)).map Int.ofNat
  | '-' :: rest => (readHex 0 false (dropPrefix rest)).map fun n => -n
  | rest => (readHex 0 false (dropPrefix rest)).map Int.ofNat

/-- `UUID(text)`: curly braces, hyphens and a URN prefix are optional, and what is left are 32
characters that `int` reads as a hexadecimal number; anything else is a `ValueError` (`none`). -/
def parse (text : String) : Option UUID :=
  let plain := removeAll "uuid:".toList 0 (removeAll "urn:".toList 0 text.toList)
  let hex := (stripBraces plain).filter (· ≠ '-')
  if hex.length = 32 then
    (intOfHex hex).bind fun n => if h : 0 ≤ n ∧ n < 2 ^ 128 then some ⟨n.toNat, by omega⟩ else none
  else none

example : intOfHex " 0x_1_F\n".toList = some 31 ∧ intOfHex "1__F".toList = none ∧
    intOfHex "٣F".toList = some 63 := by
  decide

theorem digitChar_spec {n : ℕ} (hn : n < 16) :
    hexValue (Nat.digitChar n) = some n ∧ Nat.digitChar n ≠ '-' ∧ Nat.digitChar n ≠ 'u' ∧
      (Nat.digitChar n == '{' || Nat.digitChar n == '}') = false := by
  revert n
  decide

theorem length_hexText (width n : ℕ) : (hexText width n).length = width := by
  induction width generalizing n with
  | zero => rfl
  | succ width ih => simp [hexText, ih]

theorem mem_hexText {width n : ℕ} {c : Char} (h : c ∈ hexText width n) :
    ∃ d < 16, c = Nat.digitChar d := by
  induction width generalizing n with
  | zero => exact absurd h List.not_mem_nil
  | succ width ih =>
    rcases List.mem_append.mp h with h | h
    · exact ih h
    · exact ⟨n % 16, Nat.mod_lt _ (by decide), List.mem_singleton.mp h⟩

/-- Reading the digits back gives the number modulo the width. -/
theorem parseHex_hexText (width n : ℕ) : parseHex (hexText width n) = some (n % 16 ^ width) := by
  induction width generalizing n with
  | zero => simp [hexText, parseHex, Nat.mod_one]
  | succ width ih =>
    have h_digit := (digitChar_spec (Nat.mod_lt n (by decide : 0 < 16))).1
    have h_split : n % 16 ^ (width + 1) = n / 16 % 16 ^ width * 16 + n % 16 := by
      rw [pow_succ', Nat.mod_mul, Nat.add_comm, Nat.mul_comm]
    unfold parseHex at ih ⊢
    rw [hexText, List.foldlM_append, ih]
    simp [h_digit, h_split]

/-- A text of digits only. -/
def AllHex (text : List Char) : Prop := ∀ c ∈ text, ∃ d < 16, c = Nat.digitChar d

theorem readHex_of_allHex {text : List Char} (h : AllHex text) (n : ℕ) {digit : Bool}
    (h_digit : digit = true ∨ text ≠ []) :
    readHex n digit text = text.foldlM (fun n c => (hexValue c).map (n * 16 + ·)) n := by
  induction text generalizing n digit with
  | nil =>
    obtain rfl := h_digit.resolve_right fun h_ne => h_ne rfl
    rfl
  | cons c rest ih =>
    obtain ⟨d, hd, rfl⟩ := h c List.mem_cons_self
    have h_rest := ih (fun x hx => h x (List.mem_cons_of_mem _ hx)) (n * 16 + d) (.inl rfl)
    rw [readHex, List.foldlM_cons, (digitChar_spec hd).1]
    exact h_rest

/-- `int` leaves a digit as it is, and takes it for neither a blank, a sign nor a prefix. -/
theorem digitChar_plain {d : ℕ} (hd : d < 16) :
    intChar (Nat.digitChar d) = Nat.digitChar d ∧ isBlank (Nat.digitChar d) = false ∧
      Nat.digitChar d ≠ '+' ∧ Nat.digitChar d ≠ 'x' ∧ Nat.digitChar d ≠ 'X' := by
  revert d
  decide

theorem dropPrefix_of_allHex {text : List Char} (h : AllHex text) : dropPrefix text = text := by
  unfold dropPrefix
  split
  next x rest =>
    obtain ⟨d, hd, rfl⟩ := h x (List.mem_cons_of_mem _ List.mem_cons_self)
    obtain ⟨-, -, -, h_x, h_X⟩ := digitChar_plain hd
    rw [if_neg fun h_or => h_or.elim h_x h_X]
  next => rfl

/-- **`int` reads digits as the number they stand for.** -/
theorem intOfHex_of_allHex {text : List Char} (h : AllHex text) (h_ne : text ≠ []) :
    intOfHex text = (parseHex text).map Int.ofNat := by
  have h_map : text.map intChar = text := by
    refine (List.map_congr_left fun c hc => ?_).trans (List.map_id text)
    obtain ⟨d, hd, rfl⟩ := h c hc
    exact (digitChar_plain hd).1
  have h_blank : text.dropWhile isBlank = text := dropWhile_of_forall fun c hc => by
    obtain ⟨d, hd, rfl⟩ := h c hc
    exact (digitChar_plain hd).2.1
  have h_read : readHex 0 false (dropPrefix text) = parseHex text := by
    rw [dropPrefix_of_allHex h, readHex_of_allHex h 0 (.inr h_ne)]
    rfl
  unfold intOfHex
  rw [h_map, h_blank]
  -- a digit is no sign
  split
  next rest =>
    obtain ⟨d, hd, h_sign⟩ := h '+' List.mem_cons_self
    exact absurd h_sign.symm (digitChar_plain hd).2.2.1
  next rest =>
    obtain ⟨d, hd, h_sign⟩ := h '-' List.mem_cons_self
    exact absurd h_sign.symm (digitChar_spec hd).2.1
  next => rw [h_read]

/-- The groups of the canonical text are the digits, cut four times. -/
theorem groups_eq (hex : List Char) :
    hex.take 8 ++ ((hex.drop 8).take 4 ++ ((hex.drop 12).take 4 ++
      ((hex.drop 16).take 4 ++ hex.drop 20))) = hex := by
  have h_drop : ∀ a b, (hex.drop a).take b ++ hex.drop (a + b) = hex.drop a := fun a b => by
    rw [← List.drop_drop, List.take_append_drop]
  rw [h_drop 16 4, h_drop 12 4, h_drop 8 4, List.take_append_drop]

/-- Removing the hyphens undoes `hyphenate`. -/
theorem filter_hyphenate {hex : List Char} (h : '-' ∉ hex) :
    (hyphenate hex).filter (· ≠ '-') = hex := by
  have h_keep : ∀ l : List Char, (∀ c ∈ l, c ∈ hex) → l.filter (· ≠ '-') = l := by
    intro l hl
    refine List.filter_eq_self.mpr fun c hc => ?_
    have h_ne : c ≠ '-' := fun h_eq => h (h_eq ▸ hl c hc)
    simp [h_ne]
  conv_rhs => rw [← groups_eq hex]
  -- the five groups have no hyphen, the four separators are dropped
  simp only [hyphenate, List.filter_append, List.append_assoc, List.cons_append]
  rw [List.filter_cons_of_neg (by simp), List.filter_append, List.filter_cons_of_neg (by simp),
    List.filter_append, List.filter_cons_of_neg (by simp), List.filter_append,
    List.filter_cons_of_neg (by simp)]
  rw [h_keep _ fun c hc => List.mem_of_mem_take hc,
    h_keep _ fun c hc => List.mem_of_mem_drop (List.mem_of_mem_take hc),
    h_keep _ fun c hc => List.mem_of_mem_drop (List.mem_of_mem_take hc),
    h_keep _ fun c hc => List.mem_of_mem_drop (List.mem_of_mem_take hc),
    h_keep _ fun c hc => List.mem_of_mem_drop hc]

theorem mem_hyphenate {hex : List Char} {c : Char} (h : c ∈ hyphenate hex) :
    c = '-' ∨ c ∈ hex := by
  by_cases h_eq : c = '-'
  · exact .inl h_eq
  · have h_parts : c ∈ hex.take 8 ++ ((hex.drop 8).take 4 ++ ((hex.drop 12).take 4 ++
        ((hex.drop 16).take 4 ++ hex.drop 20))) := by
      simpa [hyphenate, h_eq] using h
    rw [groups_eq] at h_parts
    exact .inr h_parts

/-- No character of a canonical text is part of a URN prefix or a brace. -/
theorem str_plain {u : UUID} {c : Char} (h : c ∈ (str u).toList) :
    c ≠ 'u' ∧ (c == '{' || c == '}') = false := by
  rw [str, String.toList_ofList] at h
  rcases mem_hyphenate h with rfl | h_hex
  · decide
  · obtain ⟨d, hd, rfl⟩ := mem_hexText h_hex
    exact ⟨(digitChar_spec hd).2.2.1, (digitChar_spec hd).2.2.2⟩

/-- **`UUID(str(u)) = u`.** -/
theorem parse_str (u : UUID) : parse (str u) = some u := by
  have h_u : 'u' ∉ (str u).toList := fun h => (str_plain h).1 rfl
  -- a written identifier has no prefix and no braces, so only the hyphens are removed
  have h_plain : removeAll "uuid:".toList 0 (removeAll "urn:".toList 0 (str u).toList)
      = (str u).toList := by
    change removeAll ('u' :: "uid:".toList) 0 (removeAll ('u' :: "rn:".toList) 0 _) = _
    rw [removeAll_of_notMem h_u, removeAll_of_notMem h_u]
  have h_braces : stripBraces (str u).toList = (str u).toList := by
    unfold stripBraces
    dsimp only
    rw [dropWhile_of_forall fun c hc => (str_plain hc).2,
      dropWhile_of_forall fun c hc => (str_plain (List.mem_reverse.mp hc)).2,
      List.reverse_reverse]
  have h_filter : (str u).toList.filter (· ≠ '-') = hexText 32 u.val := by
    rw [str, String.toList_ofList]
    refine filter_hyphenate fun h => ?_
    obtain ⟨d, hd, h_eq⟩ := mem_hexText h
    exact (digitChar_spec hd).2.1 h_eq.symm
  have h_mod : u.val % 16 ^ 32 = u.val := Nat.mod_eq_of_lt u.isLt
  have h_int : intOfHex (hexText 32 u.val) = some (u.val : ℤ) := by
    have h_ne : hexText 32 u.val ≠ [] := List.ne_nil_of_length_eq_add_one (length_hexText 32 _)
    rw [intOfHex_of_allHex (fun c => mem_hexText) h_ne, parseHex_hexText, h_mod]
    rfl
  have h_range : 0 ≤ (u.val : ℤ) ∧ (u.val : ℤ) < 2 ^ 128 := by
    have := u.isLt
    omega
  unfold parse
  dsimp only
  rw [h_plain, h_braces, h_filter, if_pos (length_hexText 32 _), h_int, Option.bind_some,
    dif_pos h_range]
  rfl

end UUID

/-! ### Datetimes -/

/-- Microseconds since the Unix epoch. -/
abbrev Instant := ℤ

/-- A `datetime`: the microseconds its wall clock shows since 1970-01-01T00:00,
and its UTC offset in microseconds when it is aware. -/
structure Datetime where
  wall : ℤ
  utcoffset : Option ℤ
deriving DecidableEq

namespace Datetime

/-- `value.astimezone(UTC)` of an aware value, `value.replace(tzinfo=UTC)` of a
naive one. -/
def asUtc (value : Datetime) : Datetime := ⟨value.wall - value.utcoffset.getD 0, some 0⟩

/-- The instant a value denotes, a naive one read as UTC. -/
def instant (value : Datetime) : Instant := value.asUtc.wall

/-- The aware UTC datetime of an instant. -/
def ofInstant (t : Instant) : Datetime := ⟨t, some 0⟩

@[simp] theorem instant_ofInstant (t : Instant) : (ofInstant t).instant = t := by
  simp [instant, asUtc, ofInstant]

/-- `n` with at least `width` decimal digits. -/
def padded (width n : ℕ) : List Char :=
  let digits := Nat.toDigits 10 n
  List.replicate (width - digits.length) '0' ++ digits

/-- The civil date (year, month, day) of a day counted from 1970-01-01, in the
proleptic Gregorian calendar. -/
def civil (day : ℤ) : ℤ × ℤ × ℤ :=
  let z := day + 719468
  let era := z / 146097
  let doe := z - era * 146097
  let yoe := (doe - doe / 1460 + doe / 36524 - doe / 146096) / 365
  let doy := doe - (365 * yoe + yoe / 4 - yoe / 100)
  let mp := (5 * doy + 2) / 153
  let d := doy - (153 * mp + 2) / 5 + 1
  -- months are counted from March on, so that the leap day is the last one of its year
  let m := if mp < 10 then mp + 3 else mp - 9
  (yoe + era * 400 + (if m ≤ 2 then 1 else 0), m, d)

/-- Hours, minutes and seconds, and the microseconds when there are any. -/
def clockText (seconds micros : ℕ) : List Char :=
  padded 2 (seconds / 3600) ++ ':' :: padded 2 (seconds / 60 % 60) ++
    ':' :: padded 2 (seconds % 60) ++ (if micros = 0 then [] else '.' :: padded 6 micros)

/-- The offset as `isoformat` writes it: no seconds when they are zero. -/
def offsetText (offset : ℤ) : List Char :=
  let total := offset.natAbs
  let seconds := total / 1000000
  let sign := if offset < 0 then '-' else '+'
  if total % 60000000 = 0 then
    sign :: padded 2 (seconds / 3600) ++ ':' :: padded 2 (seconds / 60 % 60)
  else sign :: clockText seconds (total % 1000000)

/-- `value.isoformat()`. -/
def isoformat (value : Datetime) : String :=
  let day := value.wall / 86400000000
  let micros := (value.wall % 86400000000).toNat
  let date := civil day
  String.ofList (padded 4 date.1.toNat ++ '-' :: padded 2 date.2.1.toNat ++
    '-' :: padded 2 date.2.2.toNat ++ 'T' :: clockText (micros / 1000000) (micros % 1000000) ++
    (match value.utcoffset with
      | none => []
      | some offset => offsetText offset))

end Datetime

end Python
