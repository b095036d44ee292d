import Mathlib.Data.List.Basic

/-!
# Base64 texts

`base64.urlsafe_b64encode` and `base64.urlsafe_b64decode`. The decoder is lenient: it knows
both alphabets, skips every character that is in neither, and ends at a padding that completes
a group of four. It is the machine of `binascii.a2b_base64`, character by character.

`decode_stripped` is the round trip of a text whose padding has been stripped and put back, and
`b64decode_b64encode` that of the standard alphabet, which has two digits of its own.
-/

namespace Python

namespace Base64

/-! ### The encoder -/

/-- The digit of six bits. -/
def digit (n : ℕ) : Char :=
  if n < 26 then Char.ofNat (65 + n)
  else if n < 52 then Char.ofNat (71 + n)
  else if n < 62 then Char.ofNat (n - 4)
  else if n = 62 then '-'
  else '_'

/-- The digits of some bytes, three by three, without the padding. -/
def digits : List UInt8 → List Char
  | [] => []
  | [a] => [digit (a.toNat / 4), digit (a.toNat % 4 * 16)]
  | [a, b] => [digit (a.toNat / 4), digit (a.toNat % 4 * 16 + b.toNat / 16),
      digit (b.toNat % 16 * 4)]
  | a :: b :: c :: rest => digit (a.toNat / 4) :: digit (a.toNat % 4 * 16 + b.toNat / 16) ::
      digit (b.toNat % 16 * 4 + c.toNat / 64) :: digit (c.toNat % 64) :: digits rest

/-- `"=" * (-length % 4)`. -/
def padding (length : ℕ) : List Char := List.replicate ((4 - length % 4) % 4) '='

/-- `base64.urlsafe_b64encode(data)`. -/
def encode (data : List UInt8) : List Char := digits data ++ padding (digits data).length

/-- `text.rstrip("=")`. -/
def stripPadding (text : List Char) : List Char := (text.reverse.dropWhile (· = '=')).reverse

/-! ### The decoder -/

/-- The value of a digit of either alphabet. -/
def value (c : Char) : Option ℕ :=
  if 'A' ≤ c ∧ c ≤ 'Z' then some (c.toNat - 65)
  else if 'a' ≤ c ∧ c ≤ 'z' then some (c.toNat - 71)
  else if '0' ≤ c ∧ c ≤ '9' then some (c.toNat + 4)
  else if c = '-' ∨ c = '+' then some 62
  else if c = '_' ∨ c = '/' then some 63
  else none

/-- `binascii.a2b_base64`: the place in the group of four, the bits left over from the digit
before, and the padding met since; `none` is a `binascii.Error`. -/
def scan : ℕ → ℕ → ℕ → List Char → Option (List UInt8)
  | place, _, _, [] => if place = 0 then some [] else none
  | place, left, pads, c :: rest =>
    if c = '=' then
      -- padding ends the text once the group has two digits and is filled up
      if 2 ≤ place then
        if 4 ≤ place + (pads + 1) then some [] else scan place left (pads + 1) rest
      else scan place left pads rest
    else
      match value c with
      -- characters outside of the alphabet are skipped
      | none => scan place left pads rest
      | some n =>
        match place with
        | 0 => scan 1 n 0 rest
        | 1 => (scan 2 (n % 16) 0 rest).map (UInt8.ofNat (left * 4 + n / 16) :: ·)
        | 2 => (scan 3 (n % 4) 0 rest).map (UInt8.ofNat (left * 16 + n / 4) :: ·)
        | _ => (scan 0 0 0 rest).map (UInt8.ofNat (left * 64 + n) :: ·)

/-- `base64.urlsafe_b64decode(text)`; `none` is a `ValueError`. -/
def decode (text : List Char) : Option (List UInt8) :=
  if text.all fun c => c.toNat < 128 then scan 0 0 0 text else none

/-! ### Reading back -/

theorem digit_spec {n : ℕ} (h : n < 64) :
    value (digit n) = some n ∧ digit n ≠ '=' ∧ (digit n).toNat < 128 := by
  revert n
  decide

section Digits

variable {n left pads : ℕ} (h : n < 64) (rest : List Char)

include h

/-! A digit is read into the group, at each of the four places. -/

theorem scan_first : scan 0 left pads (digit n :: rest) = scan 1 n 0 rest := by
  obtain ⟨h_value, h_pad, -⟩ := digit_spec h
  rw [scan, if_neg h_pad, h_value]
  rfl

theorem scan_second : scan 1 left pads (digit n :: rest) =
    (scan 2 (n % 16) 0 rest).map (UInt8.ofNat (left * 4 + n / 16) :: ·) := by
  obtain ⟨h_value, h_pad, -⟩ := digit_spec h
  rw [scan, if_neg h_pad, h_value]
  rfl

theorem scan_third : scan 2 left pads (digit n :: rest) =
    (scan 3 (n % 4) 0 rest).map (UInt8.ofNat (left * 16 + n / 4) :: ·) := by
  obtain ⟨h_value, h_pad, -⟩ := digit_spec h
  rw [scan, if_neg h_pad, h_value]
  rfl

theorem scan_fourth : scan 3 left pads (digit n :: rest) =
    (scan 0 0 0 rest).map (UInt8.ofNat (left * 64 + n) :: ·) := by
  obtain ⟨h_value, h_pad, -⟩ := digit_spec h
  rw [scan, if_neg h_pad, h_value]
  rfl

end Digits

theorem ofNat_eq {n : ℕ} {a : UInt8} (h : n = a.toNat) : UInt8.ofNat n = a := by
  rw [h, UInt8.ofNat_toNat]

/-- **Bytes are read back**, with the padding that their digits need. -/
theorem scan_digits (data : List UInt8) :
    scan 0 0 0 (digits data ++ padding (digits data).length) = some data := by
  induction data using digits.induct with
  | case1 => rfl
  | case2 a =>
    have h_a := a.toNat_lt
    have h_first : UInt8.ofNat (a.toNat / 4 * 4 + a.toNat % 4 * 16 / 16) = a := ofNat_eq (by omega)
    rw [digits, List.cons_append, List.cons_append, List.nil_append, scan_first (by omega),
      scan_second (by omega), h_first]
    rfl
  | case3 a b =>
    have h_a := a.toNat_lt
    have h_b := b.toNat_lt
    have h_first : UInt8.ofNat (a.toNat / 4 * 4 + (a.toNat % 4 * 16 + b.toNat / 16) / 16) = a :=
      ofNat_eq (by omega)
    have h_second : UInt8.ofNat ((a.toNat % 4 * 16 + b.toNat / 16) % 16 * 16 +
        b.toNat % 16 * 4 / 4) = b := ofNat_eq (by omega)
    rw [digits, List.cons_append, List.cons_append, List.cons_append, List.nil_append,
      scan_first (by omega), scan_second (by omega), scan_third (by omega), h_first, h_second]
    rfl
  | case4 a b c rest ih =>
    have h_a := a.toNat_lt
    have h_b := b.toNat_lt
    have h_c := c.toNat_lt
    have h_first : UInt8.ofNat (a.toNat / 4 * 4 + (a.toNat % 4 * 16 + b.toNat / 16) / 16) = a :=
      ofNat_eq (by omega)
    have h_second : UInt8.ofNat ((a.toNat % 4 * 16 + b.toNat / 16) % 16 * 16 +
        (b.toNat % 16 * 4 + c.toNat / 64) / 4) = b := ofNat_eq (by omega)
    have h_third : UInt8.ofNat ((b.toNat % 16 * 4 + c.toNat / 64) % 4 * 64 + c.toNat % 64) = c :=
      ofNat_eq (by omega)
    -- a whole group needs no padding
    have h_padding : padding (digits (a :: b :: c :: rest)).length =
        padding (digits rest).length := by
      simp only [padding, digits, List.length_cons]
      congr 1
      omega
    rw [h_padding, digits, List.cons_append, List.cons_append, List.cons_append,
      List.cons_append, scan_first (by omega), scan_second (by omega), scan_third (by omega),
      scan_fourth (by omega), ih, h_first, h_second, h_third]
    rfl

theorem mem_digits {data : List UInt8} {c : Char} (h : c ∈ digits data) :
    ∃ n < 64, c = digit n := by
  induction data using digits.induct with
  | case1 => exact absurd h List.not_mem_nil
  | case2 a =>
    have h_a := a.toNat_lt
    simp only [digits, List.mem_cons, List.not_mem_nil, or_false] at h
    rcases h with rfl | rfl <;> exact ⟨_, by omega, rfl⟩
  | case3 a b =>
    have h_a := a.toNat_lt
    have h_b := b.toNat_lt
    simp only [digits, List.mem_cons, List.not_mem_nil, or_false] at h
    rcases h with rfl | rfl | rfl <;> exact ⟨_, by omega, rfl⟩
  | case4 a b c rest ih =>
    have h_a := a.toNat_lt
    have h_b := b.toNat_lt
    have h_c := c.toNat_lt
    simp only [digits, List.mem_cons] at h
    -- six bits each, of three bytes
    rcases h with rfl | rfl | rfl | rfl | h
    · exact ⟨_, by omega, rfl⟩
    · exact ⟨_, by omega, rfl⟩
    · exact ⟨_, by omega, rfl⟩
    · exact ⟨_, by omega, rfl⟩
    · exact ih h

theorem dropWhile_padding (n : ℕ) {text : List Char} (h : ∀ c ∈ text, c ≠ '=') :
    (List.replicate n '=' ++ text).dropWhile (fun c => decide (c = '=')) = text := by
  rw [List.dropWhile_append_of_pos fun c h_c => by simp [List.eq_of_mem_replicate h_c]]
  cases text with
  | nil => rfl
  | cons c rest => exact List.dropWhile_cons_of_neg (by simp [h c List.mem_cons_self])

/-- Only the padding is stripped. -/
theorem stripPadding_encode (data : List UInt8) : stripPadding (encode data) = digits data := by
  have h_digits : ∀ c ∈ (digits data).reverse, c ≠ '=' := by
    intro c h_c
    obtain ⟨n, h_n, rfl⟩ := mem_digits (List.mem_reverse.mp h_c)
    exact (digit_spec h_n).2.1
  rw [stripPadding, encode, padding, List.reverse_append, List.reverse_replicate,
    dropWhile_padding _ h_digits, List.reverse_reverse]

theorem isAscii_encode (data : List UInt8) :
    (encode data).all (fun c => decide (c.toNat < 128)) = true := by
  refine List.all_eq_true.mpr fun c h_c => decide_eq_true ?_
  rcases List.mem_append.mp h_c with h_c | h_c
  · obtain ⟨n, h_n, rfl⟩ := mem_digits h_c
    exact (digit_spec h_n).2.2
  · rw [List.eq_of_mem_replicate h_c]
    decide

theorem decode_encode (data : List UInt8) : decode (encode data) = some data := by
  rw [decode, if_pos (isAscii_encode data), encode, scan_digits]

/-- **A stripped text is read back** with the padding that its length needs. -/
theorem decode_stripped (data : List UInt8) :
    decode (stripPadding (encode data) ++ padding (stripPadding (encode data)).length) =
      some data := by
  rw [stripPadding_encode]
  exact decode_encode data

/-! ### The standard alphabet -/

/-- The digit of the standard alphabet. -/
def standardDigit (c : Char) : Char := if c = '-' then '+' else if c = '_' then '/' else c

/-- `base64.b64encode(data)`. -/
def b64encode (data : List UInt8) : List Char := (encode data).map standardDigit

/-- `base64.b64decode(text)`, which skips the two digits that are not its own; `none` is a
`ValueError`. -/
def b64decode (text : List Char) : Option (List UInt8) :=
  decode (text.filter fun c => c ≠ '-' ∧ c ≠ '_')

theorem standardDigit_spec (c : Char) :
    value (standardDigit c) = value c ∧ (standardDigit c = '=' ↔ c = '=') ∧
      standardDigit c ≠ '-' ∧ standardDigit c ≠ '_' ∧
      (c.toNat < 128 → (standardDigit c).toNat < 128) := by
  unfold standardDigit
  by_cases h_minus : c = '-'
  · subst h_minus
    decide
  · by_cases h_underscore : c = '_'
    · subst h_underscore
      decide
    · rw [if_neg h_minus, if_neg h_underscore]
      exact ⟨rfl, Iff.rfl, h_minus, h_underscore, id⟩

/-- The decoder does not tell the alphabets apart. -/
theorem scan_standard (text : List Char) (place left pads : ℕ) :
    scan place left pads (text.map standardDigit) = scan place left pads text := by
  induction text generalizing place left pads with
  | nil => rfl
  | cons c text ih =>
    obtain ⟨h_value, h_pad, -⟩ := standardDigit_spec c
    rw [List.map_cons, scan, scan, h_value]
    simp only [h_pad, ih]

/-- **Bytes are read back** from the standard alphabet. -/
theorem b64decode_b64encode (data : List UInt8) : b64decode (b64encode data) = some data := by
  have h_own : (b64encode data).filter (fun c => c ≠ '-' ∧ c ≠ '_') = b64encode data := by
    refine List.filter_eq_self.mpr fun c h_c => decide_eq_true ?_
    obtain ⟨d, -, rfl⟩ := List.mem_map.mp h_c
    obtain ⟨-, -, h_minus, h_underscore, -⟩ := standardDigit_spec d
    exact ⟨h_minus, h_underscore⟩
  have h_ascii : (b64encode data).all (fun c => decide (c.toNat < 128)) = true := by
    refine List.all_eq_true.mpr fun c h_c => decide_eq_true ?_
    obtain ⟨d, h_d, rfl⟩ := List.mem_map.mp h_c
    have h_lt := of_decide_eq_true (List.all_eq_true.mp (isAscii_encode data) d h_d)
    exact (standardDigit_spec d).2.2.2.2 h_lt
  rw [b64decode, h_own, decode, if_pos h_ascii, b64encode, scan_standard, encode, scan_digits]

end Base64

end Python
