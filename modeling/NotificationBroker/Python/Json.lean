import Mathlib.Data.List.Sort

/-!
# JSON values and their text

The values of Python's `json` module and the text `json.dumps` writes for them
with `sort_keys=True`, `separators=(",", ":")` and `ensure_ascii=False`. The
text is a list of characters, so that it can be reasoned about by induction;
`Json.text` is the string.
-/

namespace Python

/-- A float. A finite one is given by its shortest decimal, `±mantissa * 10 ^ exponent`. -/
inductive PyFloat
  | finite (negative : Bool) (mantissa : ℕ) (exponent : ℤ)
      (shortest : mantissa % 10 ≠ 0 ∨ (mantissa = 0 ∧ exponent = 0))
  | inf (negative : Bool)
  | nan
deriving DecidableEq

/-- A JSON value: what `json.loads` returns and `json.dumps` accepts. -/
inductive Json
  | null
  | bool (b : Bool)
  | int (n : ℤ)
  | float (x : PyFloat)
  | str (s : String)
  | arr (items : List Json)
  | obj (fields : List (String × Json))

/-! ### The writer -/

/-- `str(n)` of an integer. -/
def intText (n : ℤ) : List Char :=
  if n < 0 then '-' :: Nat.toDigits 10 n.natAbs else Nat.toDigits 10 n.natAbs

/-- `float.__repr__` of the finite float `±m * 10 ^ e`: fixed notation when the
decimal point falls near the digits, else scientific notation. -/
def decimalText (negative : Bool) (m : ℕ) (e : ℤ) : List Char :=
  let digits := Nat.toDigits 10 m
  let point : ℤ := digits.length + e
  let sign := if negative then ['-'] else []
  if -4 < point ∧ point ≤ 16 then
    if point ≤ 0 then
      -- `0.00123`
      sign ++ '0' :: '.' :: List.replicate (-point).toNat '0' ++ digits
    else if digits.length ≤ point.toNat then
      -- `12300.0`
      sign ++ digits ++ List.replicate (point.toNat - digits.length) '0' ++ ['.', '0']
    else sign ++ digits.take point.toNat ++ '.' :: digits.drop point.toNat
  else
    -- scientific notation, with two digits of the exponent at least
    let fraction := if digits.length = 1 then [] else '.' :: digits.drop 1
    let exponent := Nat.toDigits 10 (point - 1).natAbs
    let padded := if exponent.length < 2 then '0' :: exponent else exponent
    sign ++ digits.take 1 ++ fraction ++
      'e' :: (if point - 1 < 0 then '-' else '+') :: padded

/-- The text of a float, with the names JSON uses for the values that are not finite. -/
def floatText : PyFloat → List Char
  | .nan => "NaN".toList
  | .inf true => "-Infinity".toList
  | .inf false => "Infinity".toList
  | .finite negative m e _ => decimalText negative m e

/-- The digit of `'\u00xy'` escapes. -/
def hexDigit (n : ℕ) : Char := Nat.digitChar n

/-- How one character stands inside a JSON string (`ensure_ascii=False`: only the
quote, the backslash and the control characters below the blank are escaped). -/
def escapeChar (c : Char) : List Char :=
  if c = '"' then ['\\', '"']
  else if c = '\\' then ['\\', '\\']
  else if c = '\n' then ['\\', 'n']
  else if c = '\r' then ['\\', 'r']
  else if c = '\t' then ['\\', 't']
  else if c.toNat = 8 then ['\\', 'b']
  else if c.toNat = 12 then ['\\', 'f']
  else if c.toNat < 32 then
    ['\\', 'u', '0', '0', hexDigit (c.toNat / 16), hexDigit (c.toNat % 16)]
  else [c]

/-- A string as JSON text. -/
def quote (s : String) : List Char := '"' :: s.toList.flatMap escapeChar ++ ['"']

/-- `",".join(texts)`. -/
def joinComma : List (List Char) → List Char
  | [] => []
  | [text] => text
  | text :: rest => text ++ ',' :: joinComma rest

/-- `sort_keys=True`: the fields in the order of their keys. -/
def sortKeys {α : Type} (fields : List (String × α)) : List (String × α) :=
  fields.insertionSort fun a b => a.1 ≤ b.1

/-- One field of an object. -/
def fieldText (field : String × List Char) : List Char := quote field.1 ++ ':' :: field.2

namespace Json

mutual

/-- `json.dumps(value, sort_keys=True, separators=(",", ":"), ensure_ascii=False)`. -/
def dumps : Json → List Char
  | null => "null".toList
  | bool true => "true".toList
  | bool false => "false".toList
  | int n => intText n
  | float x => floatText x
  | str s => quote s
  | arr items => '[' :: joinComma (dumpsItems items) ++ [']']
  | obj fields => '{' :: joinComma ((sortKeys (dumpsFields fields)).map fieldText) ++ ['}']

/-- The texts of the items of an array. -/
def dumpsItems : List Json → List (List Char)
  | [] => []
  | v :: vs => dumps v :: dumpsItems vs

/-- The fields of an object with the texts of their values. -/
def dumpsFields : List (String × Json) → List (String × List Char)
  | [] => []
  | (k, v) :: rest => (k, dumps v) :: dumpsFields rest

end

/-- The text of a value as a string. -/
def text (v : Json) : String := String.ofList v.dumps

/-- `value.get(key)` of an object; `none` when the key is absent. -/
def get? (key : String) : Json → Option Json
  | obj fields => fields.lookup key
  | _ => none

theorem dumpsFields_eq_map (fields : List (String × Json)) :
    dumpsFields fields = fields.map fun kv => (kv.1, kv.2.dumps) := by
  induction fields with
  | nil => rfl
  | cons kv rest ih => simp only [dumpsFields, ih, List.map_cons]

theorem dumpsItems_eq_map (items : List Json) : dumpsItems items = items.map dumps := by
  induction items with
  | nil => rfl
  | cons v vs ih => simp only [dumpsItems, ih, List.map_cons]

end Json

end Python
