import NotificationBroker.Python.JsonRoundTrip

/-!
# The limits of the JSON reader

`Json.loads` reads any text. CPython's reader gives up on two kinds of text, with exceptions
that are not a `JSONDecodeError`: a plain `ValueError` for an integer of more digits than
`int` converts, and a `RecursionError` for arrays and objects that are nested too deep.

`Json.loadsWithin` is the reader with these limits, part by part that of `Json.loads`. It
agrees with `Json.loads` on every text that it does not give up on (`loadsWithin_agrees`).
-/

namespace Python

/-- An exception of `json.loads`. -/
inductive LoadsError
  | jsonDecodeError
  | valueError
  | recursionError
deriving DecidableEq

/-- The most digits `int` converts, and how deep arrays and objects may be nested. -/
structure JsonLimits where
  maxDigits : ℕ := 4300
  maxDepth : ℕ

/-! ### The reader -/

/-- A part of the text that is there or not. -/
def orDecodeError {α : Type} (read : Option α) : Except LoadsError α :=
  match read with
  | some a => .ok a
  | none => .error .jsonDecodeError

/-- The digits of the integer part of a number. -/
def integerDigits (text : List Char) : ℕ :=
  match integerPart (minusPart text).2 with
  | some (digits, _) => digits.length
  | none => 0

/-- A number. Only an integer is converted digit by digit. -/
def readNumberWithin (floatOf : List Char → PyFloat) (maxDigits : ℕ) (text : List Char) :
    Except LoadsError (Json × List Char) :=
  match readNumber floatOf text with
  | some (.int n, rest) =>
    -- the limit of `int` on the digits of a text
    if maxDigits < integerDigits text then .error .valueError else .ok (.int n, rest)
  | read => orDecodeError read

mutual

/-- A value at the front of the text, inside of which `depth` arrays and objects may be open.
The second number bounds the nesting of calls. -/
def readValueWithin (floatOf : List Char → PyFloat) (maxDigits : ℕ) :
    ℕ → ℕ → List Char → Except LoadsError (Json × List Char)
  | _, 0, _ => .error .jsonDecodeError
  | depth, n + 1, text =>
    match text with
    | '"' :: rest => orDecodeError ((readString rest).map fun (s, rest) => (.str s, rest))
    | '[' :: rest =>
      match depth with
      | 0 => .error .recursionError
      | depth + 1 =>
        match skipSpace rest with
        | ']' :: rest => .ok (.arr [], rest)
        | rest => (readItemsWithin floatOf maxDigits depth n rest).map
            fun (items, rest) => (.arr items, rest)
    | '{' :: rest =>
      match depth with
      | 0 => .error .recursionError
      | depth + 1 =>
        match skipSpace rest with
        | '}' :: rest => .ok (.obj [], rest)
        | rest => (readFieldsWithin floatOf maxDigits depth n rest).map
            fun (fields, rest) => (.obj (dictOf fields), rest)
    | _ =>
      match readWord text with
      | some read => .ok read
      | none => readNumberWithin floatOf maxDigits text

/-- The items of an array, and its closing bracket. -/
def readItemsWithin (floatOf : List Char → PyFloat) (maxDigits : ℕ) :
    ℕ → ℕ → List Char → Except LoadsError (List Json × List Char)
  | _, 0, _ => .error .jsonDecodeError
  | depth, n + 1, text => do
    let (item, rest) ← readValueWithin floatOf maxDigits depth n text
    match skipSpace rest with
    | ',' :: rest =>
      let (items, rest) ← readItemsWithin floatOf maxDigits depth n (skipSpace rest)
      return (item :: items, rest)
    | ']' :: rest => return ([item], rest)
    | _ => .error .jsonDecodeError

/-- The fields of an object, and its closing brace. -/
def readFieldsWithin (floatOf : List Char → PyFloat) (maxDigits : ℕ) :
    ℕ → ℕ → List Char → Except LoadsError (List (String × Json) × List Char)
  | _, 0, _ => .error .jsonDecodeError
  | depth, n + 1, text => do
    match text with
    | '"' :: rest =>
      let (key, rest) ← orDecodeError (readString rest)
      match skipSpace rest with
      | ':' :: rest =>
        let (value, rest) ← readValueWithin floatOf maxDigits depth n (skipSpace rest)
        match skipSpace rest with
        | ',' :: rest =>
          let (fields, rest) ← readFieldsWithin floatOf maxDigits depth n (skipSpace rest)
          return ((key, value) :: fields, rest)
        | '}' :: rest => return ([(key, value)], rest)
        | _ => .error .jsonDecodeError
      | _ => .error .jsonDecodeError
    | _ => .error .jsonDecodeError

end

/-- `json.loads(text)`. -/
def Json.loadsWithin (floatOf : List Char → PyFloat) (limits : JsonLimits) (text : String) :
    Except LoadsError Json :=
  let chars := text.toList
  if chars.head? = some '\ufeff' then .error .jsonDecodeError
  else do
    let (value, rest) ← readValueWithin floatOf limits.maxDigits limits.maxDepth
      (2 * chars.length + 2) (skipSpace chars)
    if skipSpace rest = [] then .ok value else .error .jsonDecodeError

/-! ### The reader without limits -/

/-- What a reader with limits reads, against one without: the same, unless it gives up. -/
def Agrees {α : Type} (limited : Except LoadsError α) (read : Option α) : Prop :=
  match limited with
  | .ok a => read = some a
  | .error .jsonDecodeError => read = none
  | .error .valueError => True
  | .error .recursionError => True

section Agrees

variable {α β : Type}

theorem agrees_orDecodeError (read : Option α) : Agrees (orDecodeError read) read := by
  cases read <;> rfl

/-- What follows agrees, whatever has been read. -/
theorem Agrees.bind {limited : Except LoadsError α} {read : Option α} (h : Agrees limited read)
    {f : α → Except LoadsError β} {g : α → Option β} (h_then : ∀ a, Agrees (f a) (g a)) :
    Agrees (limited >>= f) (read >>= g) := by
  match limited, h with
  | .ok a, h =>
    obtain rfl : read = some a := h
    exact h_then a
  | .error .jsonDecodeError, h =>
    obtain rfl : read = none := h
    rfl
  | .error .valueError, _ => trivial
  | .error .recursionError, _ => trivial

theorem Agrees.map {limited : Except LoadsError α} {read : Option α} (h : Agrees limited read)
    (f : α → β) : Agrees (limited.map f) (read.map f) := by
  match limited, h with
  | .ok a, h =>
    obtain rfl : read = some a := h
    rfl
  | .error .jsonDecodeError, h =>
    obtain rfl : read = none := h
    rfl
  | .error .valueError, _ => trivial
  | .error .recursionError, _ => trivial

end Agrees

variable (floatOf : List Char → PyFloat) (maxDigits : ℕ)

theorem readNumberWithin_agrees (text : List Char) :
    Agrees (readNumberWithin floatOf maxDigits text) (readNumber floatOf text) := by
  unfold readNumberWithin
  split
  next h_read =>
    split
    · trivial
    · exact h_read
  · exact agrees_orDecodeError _

section Parts

variable {floatOf maxDigits} {n : ℕ}
  (h_value : ∀ depth text, Agrees (readValueWithin floatOf maxDigits depth n text)
    (readValue floatOf n text))
  (h_items : ∀ depth text, Agrees (readItemsWithin floatOf maxDigits depth n text)
    (readItems floatOf n text))
  (h_fields : ∀ depth text, Agrees (readFieldsWithin floatOf maxDigits depth n text)
    (readFields floatOf n text))

include h_items h_fields in
theorem readValueWithin_agrees (depth : ℕ) (text : List Char) :
    Agrees (readValueWithin floatOf maxDigits depth (n + 1) text)
      (readValue floatOf (n + 1) text) := by
  unfold readValueWithin
  split
  · exact agrees_orDecodeError _
  next rest =>
    cases depth with
    | zero => trivial
    | succ depth =>
      -- one level deeper, in an array
      change Agrees _ (match skipSpace rest with
        | ']' :: rest => some (Json.arr [], rest)
        | rest => (readItems floatOf n rest).map fun (items, rest) => (Json.arr items, rest))
      dsimp only
      split
      · rfl
      · exact (h_items depth _).map _
  next rest =>
    cases depth with
    | zero => trivial
    | succ depth =>
      -- or in an object
      change Agrees _ (match skipSpace rest with
        | '}' :: rest => some (Json.obj [], rest)
        | rest => (readFields floatOf n rest).map
            fun (fields, rest) => (Json.obj (dictOf fields), rest))
      dsimp only
      split
      · rfl
      · exact (h_fields depth _).map _
  next h_quote h_bracket h_brace =>
    rw [readValue]
    · cases readWord text with
      | some read => rfl
      | none => exact readNumberWithin_agrees floatOf maxDigits text
    · exact h_quote
    · exact h_bracket
    · exact h_brace

include h_value h_items in
theorem readItemsWithin_agrees (depth : ℕ) (text : List Char) :
    Agrees (readItemsWithin floatOf maxDigits depth (n + 1) text)
      (readItems floatOf (n + 1) text) := by
  unfold readItemsWithin readItems
  refine (h_value depth text).bind fun read => ?_
  obtain ⟨item, rest⟩ := read
  dsimp only
  generalize skipSpace rest = scanned
  by_cases h_comma : ∃ rest, scanned = ',' :: rest
  · obtain ⟨rest, rfl⟩ := h_comma
    refine (h_items depth (skipSpace rest)).bind fun read => ?_
    obtain ⟨items, rest⟩ := read
    rfl
  by_cases h_close : ∃ rest, scanned = ']' :: rest
  · obtain ⟨rest, rfl⟩ := h_close
    rfl
  · simp only [not_exists] at h_comma h_close
    simp [Agrees]

include h_value h_fields in
theorem readFieldsWithin_agrees (depth : ℕ) (text : List Char) :
    Agrees (readFieldsWithin floatOf maxDigits depth (n + 1) text)
      (readFields floatOf (n + 1) text) := by
  by_cases h_quote : ∃ rest, text = '"' :: rest
  · obtain ⟨rest, rfl⟩ := h_quote
    unfold readFieldsWithin readFields
    -- the key
    refine (agrees_orDecodeError (readString rest)).bind fun read => ?_
    obtain ⟨key, rest⟩ := read
    dsimp only
    generalize skipSpace rest = scanned
    by_cases h_colon : ∃ rest, scanned = ':' :: rest
    · obtain ⟨rest, rfl⟩ := h_colon
      -- the value behind its colon
      refine (h_value depth (skipSpace rest)).bind fun read => ?_
      obtain ⟨value, rest⟩ := read
      dsimp only
      generalize skipSpace rest = scanned
      -- more fields, or the end of the object
      by_cases h_comma : ∃ rest, scanned = ',' :: rest
      · obtain ⟨rest, rfl⟩ := h_comma
        refine (h_fields depth (skipSpace rest)).bind fun read => ?_
        obtain ⟨fields, rest⟩ := read
        rfl
      by_cases h_close : ∃ rest, scanned = '}' :: rest
      · obtain ⟨rest, rfl⟩ := h_close
        rfl
      · simp only [not_exists] at h_comma h_close
        simp [Agrees]
    · simp only [not_exists] at h_colon
      simp [Agrees]
  · simp only [not_exists] at h_quote
    unfold readFieldsWithin readFields
    simp [Agrees]

end Parts

/-- Part by part, by induction on the bound for the nesting of calls. -/
theorem reader_agrees (n : ℕ) :
    (∀ depth text, Agrees (readValueWithin floatOf maxDigits depth n text)
      (readValue floatOf n text)) ∧
    (∀ depth text, Agrees (readItemsWithin floatOf maxDigits depth n text)
      (readItems floatOf n text)) ∧
    (∀ depth text, Agrees (readFieldsWithin floatOf maxDigits depth n text)
      (readFields floatOf n text)) := by
  induction n with
  | zero => exact ⟨fun _ _ => rfl, fun _ _ => rfl, fun _ _ => rfl⟩
  | succ n ih =>
    obtain ⟨h_value, h_items, h_fields⟩ := ih
    exact ⟨readValueWithin_agrees h_items h_fields, readItemsWithin_agrees h_value h_items,
      readFieldsWithin_agrees h_value h_fields⟩

/-- **The readers agree** on every text that the one with limits does not give up on. -/
theorem Json.loadsWithin_agrees (limits : JsonLimits) (text : String) :
    Agrees (Json.loadsWithin floatOf limits text) (Json.loads floatOf text) := by
  unfold Json.loadsWithin Json.loads
  dsimp only
  split
  · rfl
  · refine ((reader_agrees floatOf limits.maxDigits _).1 limits.maxDepth _).bind
      fun (value, rest) => ?_
    dsimp only
    split
    · rfl
    · rfl

/-! ### Long integers -/

/-- An integer without zeros in front is not read if it has too many digits. -/
theorem readValueWithin_integer {floatOf : List Char → PyFloat} {maxDigits depth n : ℕ}
    {digits : List Char} (h_digits : ∀ c ∈ digits, c.isDigit = true)
    (h_leading : ∃ c rest, digits = c :: rest ∧ c ≠ '0') (h_long : maxDigits < digits.length) :
    readValueWithin floatOf maxDigits depth (n + 1) digits = .error .valueError := by
  have h_text : NumberText [] digits [] [] :=
    ⟨.inl rfl, h_digits, .inr h_leading, .inl rfl, .inl rfl⟩
  -- a digit starts neither a string nor a word nor a container
  have h_starts : StartsNumber digits := by simpa using h_text.startsNumber
  have h_number := h_text.readNumber_eq floatOf endsNumber_nil
  have h_integer := h_text.integerPart_eq endsNumber_nil
  simp only [List.nil_append, List.append_nil, and_self, if_true] at h_number h_integer
  obtain ⟨c, rest, rfl, -⟩ := h_leading
  have h_c : c.isDigit = true := h_digits c List.mem_cons_self
  have h_minus : minusPart (c :: rest) = ([], c :: rest) := by
    rw [minusPart]
    exact fun _ h_eq => absurd ((List.cons.inj h_eq).1 ▸ h_c) (by decide)
  have h_within : readNumberWithin floatOf maxDigits (c :: rest) = .error .valueError := by
    unfold readNumberWithin integerDigits
    rw [h_number, h_minus]
    simp only [h_integer, if_pos h_long]
  rw [readValueWithin, h_starts.readWord_eq]
  · exact h_within
  all_goals
    intro rest' h_eq
    exact absurd ((List.cons.inj h_eq).1 ▸ h_c) (by decide)

/-- **A long integer** makes the reader give up. -/
theorem Json.loadsWithin_integer {floatOf : List Char → PyFloat} {limits : JsonLimits}
    {digits : List Char} (h_digits : ∀ c ∈ digits, c.isDigit = true)
    (h_leading : ∃ c rest, digits = c :: rest ∧ c ≠ '0')
    (h_long : limits.maxDigits < digits.length) :
    Json.loadsWithin floatOf limits (String.ofList digits) = .error .valueError := by
  have h_read : readValueWithin floatOf limits.maxDigits limits.maxDepth (2 * digits.length + 2)
      digits = .error .valueError := readValueWithin_integer h_digits h_leading h_long
  obtain ⟨c, rest, rfl, -⟩ := h_leading
  have h_c : c.isDigit = true := h_digits c List.mem_cons_self
  have h_space : skipSpace (c :: rest) = c :: rest := by
    have h_starts : Starts (c :: rest) := StartsNumber.starts ⟨c, rest, h_c, .inl rfl⟩
    simpa using skipSpace_starts h_starts []
  -- no byte order mark and no space stands before the digits
  have h_mark : ¬ (c :: rest).head? = some '\ufeff' := by
    intro h_head
    obtain rfl := Option.some.inj h_head
    exact absurd h_c (by decide)
  unfold Json.loadsWithin
  rw [String.toList_ofList]
  dsimp only
  rw [if_neg h_mark, h_space, h_read]
  rfl

end Python
