import Mathlib.Data.List.TakeDrop
import Mathlib.Tactic.IntervalCases
import NotificationBroker.Python.Json
import NotificationBroker.Python.Text

/-!
# Reading JSON text

`Json.loads` is `json.loads`: a recursive-descent parser of values over the list of
characters, with the scanner of strings, of numbers and of the words (`NaN` and the
infinities among them) that Python's reader has. An object with a repeated key keeps
the last value. What `float` makes of the text of a number is the parameter `floatOf`.

A string escape that stands for half of a surrogate pair has no value here, although a
Python string can hold it. Texts that `json.dumps` has written from the strings of the model have
none of these. Where any text can come in, at the consumer, `loads` is a parameter, and a string
with such a half is neither an event type nor the text of an identifier.
-/

namespace Python

/-! ### The scanners -/

/-- The whitespace of JSON. -/
def skipSpace (text : List Char) : List Char :=
  text.dropWhile fun c => c = ' ' ∨ c = '\t' ∨ c = '\n' ∨ c = '\r'

/-- The value of four hexadecimal digits. -/
def hexUnit (a b c d : Char) : Option ℕ := UUID.parseHex [a, b, c, d]

/-- What an escape of one letter stands for. -/
def simpleEscape (c : Char) : Option ℕ :=
  if c = '"' ∨ c = '\\' ∨ c = '/' then some c.toNat
  else if c = 'b' then some 8
  else if c = 'f' then some 12
  else if c = 'n' then some 10
  else if c = 'r' then some 13
  else if c = 't' then some 9
  else none

/-- The code units of a string up to its closing quote, and the text behind it. A
control character has to be escaped. -/
def stringUnits : List Char → Option (List ℕ × List Char)
  | [] => none
  | c :: rest =>
    if c = '"' then some ([], rest)
    else if c = '\\' then
      match rest with
      | 'u' :: a :: b :: c :: d :: rest => do
        let unit ← hexUnit a b c d
        let (units, rest) ← stringUnits rest
        return (unit :: units, rest)
      | c :: rest => do
        let unit ← simpleEscape c
        let (units, rest) ← stringUnits rest
        return (unit :: units, rest)
      | [] => none
    -- a control character has to be escaped
    else if c.toNat < 32 then none
    else do
      let (units, rest) ← stringUnits rest
      return (c.toNat :: units, rest)

/-- A code unit that is a character. -/
def charOfUnit (unit : ℕ) : Option Char :=
  if unit.isValidChar then some (Char.ofNat unit) else none

/-- The characters of code units: two halves of a surrogate pair are one character. -/
def joinUnits : List ℕ → Option (List Char)
  | [] => some []
  | [unit] => do return [← charOfUnit unit]
  | unit :: low :: rest =>
    if 0xD800 ≤ unit ∧ unit ≤ 0xDBFF ∧ 0xDC00 ≤ low ∧ low ≤ 0xDFFF then do
      return (← charOfUnit (0x10000 + (unit - 0xD800) * 0x400 + (low - 0xDC00))) ::
        (← joinUnits rest)
    else do return (← charOfUnit unit) :: (← joinUnits (low :: rest))

/-- A string, behind its opening quote. -/
def readString (text : List Char) : Option (String × List Char) := do
  let (units, rest) ← stringUnits text
  let chars ← joinUnits units
  return (String.ofList chars, rest)

/-- The integer part of a number: no zeros in front. -/
def integerPart : List Char → Option (List Char × List Char)
  | [] => none
  | c :: rest =>
    if c = '0' then some ([c], rest)
    else if c.isDigit then some ((c :: rest).span Char.isDigit)
    else none

/-- The fraction of a number, with its point. -/
def fractionPart (text : List Char) : List Char × List Char :=
  match text with
  | '.' :: rest =>
    let (digits, rest) := rest.span Char.isDigit
    if digits = [] then ([], text) else ('.' :: digits, rest)
  | _ => ([], text)

/-- The sign of an exponent. -/
def signPart : List Char → List Char × List Char
  | '-' :: rest => (['-'], rest)
  | '+' :: rest => (['+'], rest)
  | text => ([], text)

/-- The exponent of a number, with its letter. -/
def exponentPart (text : List Char) : List Char × List Char :=
  match text with
  | [] => ([], [])
  | c :: rest =>
    if c = 'e' ∨ c = 'E' then
      let (sign, rest) := signPart rest
      let (digits, rest) := rest.span Char.isDigit
      if digits = [] then ([], text) else (c :: sign ++ digits, rest)
    else ([], text)

/-- The sign of a number. -/
def minusPart : List Char → List Char × List Char
  | '-' :: rest => (['-'], rest)
  | text => ([], text)

/-- A number: an integer unless it has a fraction or an exponent. -/
def readNumber (floatOf : List Char → PyFloat) (text : List Char) : Option (Json × List Char) := do
  let (sign, rest) := minusPart text
  let (digits, rest) ← integerPart rest
  let (fraction, rest) := fractionPart rest
  let (exponent, rest) := exponentPart rest
  if fraction = [] ∧ exponent = [] then
    let n : ℕ := Nat.ofDigitChars 10 digits 0
    return (.int (if sign = [] then n else -n), rest)
  else return (.float (floatOf (sign ++ digits ++ fraction ++ exponent)), rest)

/-- The values that are written as words. -/
def jsonWords : List (List Char × Json) :=
  [("null".toList, .null), ("true".toList, .bool true), ("false".toList, .bool false),
    ("NaN".toList, .float .nan), ("Infinity".toList, .float (.inf false)),
    ("-Infinity".toList, .float (.inf true))]

/-- A word. -/
def readWord (text : List Char) : Option (Json × List Char) :=
  jsonWords.findSome? fun entry =>
    if entry.1.isPrefixOf text then some (entry.2, text.drop entry.1.length) else none

/-- `fields[key] = value`. -/
def setField (fields : List (String × Json)) (field : String × Json) : List (String × Json) :=
  if field.1 ∈ fields.map Prod.fst then fields.map fun old => if old.1 = field.1 then field else old
  else fields ++ [field]

/-- `dict(pairs)`. -/
def dictOf (pairs : List (String × Json)) : List (String × Json) := pairs.foldl setField []

/-! ### The parser -/

mutual

/-- A value at the front of the text. The first argument bounds the nesting of calls. -/
def readValue (floatOf : List Char → PyFloat) : ℕ → List Char → Option (Json × List Char)
  | 0, _ => none
  | n + 1, text =>
    match text with
    | '"' :: rest => (readString rest).map fun (s, rest) => (.str s, rest)
    | '[' :: rest =>
      match skipSpace rest with
      | ']' :: rest => some (.arr [], rest)
      | rest => (readItems floatOf n rest).map fun (items, rest) => (.arr items, rest)
    | '{' :: rest =>
      match skipSpace rest with
      | '}' :: rest => some (.obj [], rest)
      | rest => (readFields floatOf n rest).map fun (fields, rest) => (.obj (dictOf fields), rest)
    | _ => readWord text <|> readNumber floatOf text

/-- The items of an array, and its closing bracket. -/
def readItems (floatOf : List Char → PyFloat) : ℕ → List Char → Option (List Json × List Char)
  | 0, _ => none
  | n + 1, text => do
    let (item, rest) ← readValue floatOf n text
    match skipSpace rest with
    | ',' :: rest =>
      let (items, rest) ← readItems floatOf n (skipSpace rest)
      return (item :: items, rest)
    | ']' :: rest => return ([item], rest)
    | _ => none

/-- The fields of an object, and its closing brace. -/
def readFields (floatOf : List Char → PyFloat) :
    ℕ → List Char → Option (List (String × Json) × List Char)
  | 0, _ => none
  | n + 1, text => do
    match text with
    | '"' :: rest =>
      let (key, rest) ← readString rest
      match skipSpace rest with
      | ':' :: rest =>
        let (value, rest) ← readValue floatOf n (skipSpace rest)
        match skipSpace rest with
        | ',' :: rest =>
          let (fields, rest) ← readFields floatOf n (skipSpace rest)
          return ((key, value) :: fields, rest)
        | '}' :: rest => return ([(key, value)], rest)
        | _ => none
      | _ => none
    | _ => none

end

/-- `json.loads(text)`; `none` is a `JSONDecodeError`. -/
def Json.loads (floatOf : List Char → PyFloat) (text : String) : Option Json :=
  let chars := text.toList
  if chars.head? = some '\ufeff' then none
  else do
    let (value, rest) ← readValue floatOf (2 * chars.length + 2) (skipSpace chars)
    if skipSpace rest = [] then some value else none

end Python
