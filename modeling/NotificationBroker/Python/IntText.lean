import Mathlib.Data.Nat.Notation
import Mathlib.Data.Int.Notation

/-!
# Integers in byte strings

`int(data)` for `bytes`: white space around an optional sign and decimal digits, with single
underscores between the digits. A text of more digits than the interpreter converts is refused
like one that is no integer.
-/

namespace Python

/-- `sys.int_info.default_max_str_digits`. -/
def maxStrDigits : ℕ := 4300

/-- A byte of white space. -/
def isSpaceByte (b : UInt8) : Bool := (9 ≤ b && b ≤ 13) || b == 32

/-- A decimal digit. -/
def isDigitByte (b : UInt8) : Bool := 48 ≤ b && b ≤ 57

/-- The sign of a text, and what follows it. -/
def splitSign : List UInt8 → Bool × List UInt8
  | 43 :: text => (false, text)
  | 45 :: text => (true, text)
  | text => (false, text)

/-- The number that decimal digits stand for. -/
def decimalValue (digits : List UInt8) : ℕ :=
  digits.foldl (fun n b => n * 10 + (b.toNat - 48)) 0

/-- `int(data)`; `none` is a `ValueError`. -/
def intOfBytes (data : List UInt8) : Option ℤ :=
  let (negative, text) := splitSign (data.dropWhile isSpaceByte)
  let numeral := text.takeWhile fun b => isDigitByte b || b == 95
  let digits := numeral.filter isDigitByte
  -- an underscore stands between two digits
  if (numeral.splitOn 95).any List.isEmpty || decide (maxStrDigits < digits.length) ||
      ! (text.drop numeral.length).all isSpaceByte then none
  else some (if negative then -decimalValue digits else decimalValue digits)

example : intOfBytes [32, 43, 49, 95, 48, 10] = some 10 ∧ intOfBytes [49, 95, 95, 48] = none := by
  decide

end Python
