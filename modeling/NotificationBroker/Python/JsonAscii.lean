import NotificationBroker.Python.JsonRoundTrip
import NotificationBroker.Python.Utf8

/-!
# JSON texts in ASCII

The text `json.dumps` writes with its default `ensure_ascii=True`, and what such a text says
about the value it was written for.

A text without a backslash has no escaped character, so it is also the text of
`ensure_ascii=False`. `Json.eq_strings_of_dumps`: a value whose text is the one of an object of
strings is an object of the same strings, whatever it was read from.
-/

namespace Python

/-! ### The writer -/

/-- `'\uxxxx'` of a code unit. -/
def escapeUnit (unit : ℕ) : List Char :=
  ['\\', 'u', hexDigit (unit / 4096), hexDigit (unit / 256 % 16), hexDigit (unit / 16 % 16),
    hexDigit (unit % 16)]

/-- How a character of a JSON text is written with `ensure_ascii=True`: one that is not
printable ASCII, which can only stand inside a string, as its code units. -/
def escapeAscii (c : Char) : List Char :=
  if c.toNat < 127 then [c]
  else if c.toNat < 0x10000 then escapeUnit c.toNat
  else escapeUnit (0xD800 + (c.toNat - 0x10000) / 0x400) ++
    escapeUnit (0xDC00 + (c.toNat - 0x10000) % 0x400)

/-- `json.dumps(value, sort_keys=True, separators=(",", ":"))`. -/
def Json.asciiDumps (v : Json) : List Char := v.dumps.flatMap escapeAscii

theorem flatMap_escapeAscii {text : List Char} (h : ∀ c ∈ text, c.toNat < 127) :
    text.flatMap escapeAscii = text := by
  induction text with
  | nil => rfl
  | cons c rest ih =>
    rw [List.flatMap_cons, escapeAscii, if_pos (h c List.mem_cons_self),
      ih fun d h_d => h d (List.mem_cons_of_mem c h_d)]
    rfl

/-- A character that is escaped leaves a backslash. -/
theorem backslash_mem_escapeAscii {c : Char} (h : ¬ c.toNat < 127) : '\\' ∈ escapeAscii c := by
  rw [escapeAscii, if_neg h]
  split
  · exact List.mem_cons_self
  · exact List.mem_append_left _ List.mem_cons_self

/-- A text without a backslash has no escaped character. -/
theorem Json.dumps_of_asciiDumps {v : Json} {text : List Char} (h : v.asciiDumps = text)
    (h_plain : '\\' ∉ text) : v.dumps = text := by
  have h_ascii : ∀ c ∈ v.dumps, c.toNat < 127 := by
    intro c h_c
    by_contra h_not
    refine h_plain (h ▸ ?_)
    exact List.mem_flatMap.mpr ⟨c, h_c, backslash_mem_escapeAscii h_not⟩
  rw [← h, asciiDumps, flatMap_escapeAscii h_ascii]

/-! ### Texts that need no escapes -/

/-- A character that `escapeAscii` leaves as it is and that is no escape itself. -/
def Bare (c : Char) : Prop := c.toNat < 127 ∧ c ≠ '\\'

instance (c : Char) : Decidable (Bare c) := by unfold Bare; infer_instance

/-- A string without quotes, backslashes and characters that are not printable ASCII. -/
def PlainText (s : String) : Prop :=
  ∀ c ∈ s.toList, (32 ≤ c.toNat ∧ c.toNat < 127) ∧ c ≠ '"' ∧ c ≠ '\\'

theorem escapeChar_plain {c : Char} (h : 32 ≤ c.toNat) (h_quote : c ≠ '"') (h_back : c ≠ '\\') :
    escapeChar c = [c] := by
  have h_ne : ∀ d : Char, d.toNat < 32 → c ≠ d := by
    rintro d h_d rfl
    omega
  have h_b : c.toNat ≠ 8 := by omega
  have h_f : c.toNat ≠ 12 := by omega
  have h_control : ¬ c.toNat < 32 := by omega
  simp only [escapeChar, h_quote, h_back, h_ne '\n' (by decide), h_ne '\r' (by decide),
    h_ne '\t' (by decide), h_b, h_f, h_control, if_false]

theorem bare_quote {s : String} (h : PlainText s) : ∀ c ∈ quote s, Bare c := by
  intro c h_c
  rcases List.mem_cons.mp h_c with rfl | h_c
  · decide
  rcases List.mem_append.mp h_c with h_c | h_c
  · obtain ⟨d, h_d, h_c⟩ := List.mem_flatMap.mp h_c
    obtain ⟨⟨h_low, h_high⟩, h_quote, h_back⟩ := h d h_d
    rw [escapeChar_plain h_low h_quote h_back] at h_c
    obtain rfl := List.mem_singleton.mp h_c
    exact ⟨h_high, h_back⟩
  · obtain rfl := List.mem_singleton.mp h_c
    decide

theorem bare_joinComma {texts : List (List Char)} (h : ∀ text ∈ texts, ∀ c ∈ text, Bare c) :
    ∀ c ∈ joinComma texts, Bare c := by
  induction texts with
  | nil => exact fun c h_c => absurd h_c List.not_mem_nil
  | cons text texts ih =>
    have h_text := h text List.mem_cons_self
    cases texts with
    | nil => exact h_text
    | cons text' texts =>
      intro c h_c
      rcases List.mem_append.mp h_c with h_c | h_c
      · exact h_text c h_c
      rcases List.mem_cons.mp h_c with rfl | h_c
      · -- the comma itself
        decide
      · exact ih (fun t h_t => h t (List.mem_cons_of_mem _ h_t)) c h_c

/-- An object needs no escapes if its keys and values need none. -/
theorem Json.bare_obj {fields : List (String × Json)}
    (h : ∀ field ∈ fields, PlainText field.1 ∧ ∀ c ∈ field.2.dumps, Bare c) :
    ∀ c ∈ (Json.obj fields).dumps, Bare c := by
  rw [dumps_obj]
  intro c h_c
  rcases List.mem_cons.mp h_c with rfl | h_c
  · decide
  rcases List.mem_append.mp h_c with h_c | h_c
  · refine bare_joinComma (fun text h_text d h_d => ?_) c h_c
    obtain ⟨field, h_field, rfl⟩ := List.mem_map.mp h_text
    obtain ⟨h_key, h_value⟩ := h field ((sortKeys_perm fields).mem_iff.mp h_field)
    -- a field is its quoted key, a colon and its value
    rcases List.mem_append.mp h_d with h_d | h_d
    · exact bare_quote h_key d h_d
    rcases List.mem_cons.mp h_d with rfl | h_d
    · decide
    · exact h_value d h_d
  · obtain rfl := List.mem_singleton.mp h_c
    decide

/-- Without escapes, the two texts of a value are one. -/
theorem Json.asciiDumps_of_bare {v : Json} (h : ∀ c ∈ v.dumps, Bare c) : v.asciiDumps = v.dumps :=
  flatMap_escapeAscii fun c h_c => (h c h_c).1

/-! ### Objects of strings -/

/-- The fields of an object whose values are strings. -/
def Json.strings (fields : List (String × String)) : List (String × Json) :=
  fields.map fun field => (field.1, .str field.2)

/-- Where a string ends does not depend on what comes behind it. -/
theorem quote_append_inj {s s' : String} {rest rest' : List Char}
    (h : quote s ++ rest = quote s' ++ rest') : s = s' ∧ rest = rest' := by
  have h_read := readString_escaped s rest
  have h_read' := readString_escaped s' rest'
  have h_tail : s.toList.flatMap escapeChar ++ '"' :: rest =
      s'.toList.flatMap escapeChar ++ '"' :: rest' := by
    simpa [quote] using h
  rw [h_tail, h_read'] at h_read
  exact ⟨(Prod.ext_iff.mp (Option.some.inj h_read)).1.symm,
    (Prod.ext_iff.mp (Option.some.inj h_read)).2.symm⟩

theorem StartsNumber.head_ne {text : List Char} (h : StartsNumber text) :
    text.head? ≠ some '"' ∧ text.head? ≠ some '\x7b' := by
  obtain ⟨c, rest, h_digit, rfl | rfl⟩ := h
  · refine ⟨?_, ?_⟩ <;> rintro h_head <;> obtain rfl := Option.some.inj h_head <;>
      exact absurd h_digit (by decide)
  · exact ⟨by simp, by simp⟩

/-- Only a string is written with a quote in front, and only an object with a brace. -/
theorem Json.head_dumps (v : Json) :
    (v.dumps.head? = some '"' → ∃ s, v = .str s) ∧
      (v.dumps.head? = some '\x7b' → ∃ fields, v = .obj fields) := by
  cases v with
  | null => exact ⟨fun h => absurd h (by decide), fun h => absurd h (by decide)⟩
  | bool b =>
    cases b
    · exact ⟨fun h => absurd h (by decide), fun h => absurd h (by decide)⟩
    · exact ⟨fun h => absurd h (by decide), fun h => absurd h (by decide)⟩
  | int n =>
    -- a number starts with a digit or a minus
    have h_number := (startsNumber_intText n).head_ne
    exact ⟨fun h => absurd h h_number.1, fun h => absurd h h_number.2⟩
  | float x =>
    cases x with
    | finite negative m e h_shortest =>
      have h_number := (startsNumber_decimalText negative m e h_shortest).head_ne
      exact ⟨fun h => absurd h h_number.1, fun h => absurd h h_number.2⟩
    | inf negative =>
      cases negative
      · exact ⟨fun h => absurd h (by decide), fun h => absurd h (by decide)⟩
      · exact ⟨fun h => absurd h (by decide), fun h => absurd h (by decide)⟩
    | nan => exact ⟨fun h => absurd h (by decide), fun h => absurd h (by decide)⟩
  | str s => exact ⟨fun _ => ⟨s, rfl⟩, fun h => absurd (Option.some.inj h) (by decide)⟩
  | arr items =>
    exact ⟨fun h => absurd (Option.some.inj h) (by decide),
      fun h => absurd (Option.some.inj h) (by decide)⟩
  | obj fields => exact ⟨fun h => absurd (Option.some.inj h) (by decide), fun _ => ⟨fields, rfl⟩⟩

/-- The text of a value is not empty. -/
theorem Json.head_dumps_append (v : Json) (rest : List Char) :
    (v.dumps ++ rest).head? = v.dumps.head? := by
  obtain ⟨c, text, h_text, -⟩ := starts_dumps v
  rw [h_text]
  rfl

/-- Where a string begins, a value is that string. -/
theorem Json.eq_str_of_append {v : Json} {s : String} {rest rest' : List Char}
    (h : v.dumps ++ rest = quote s ++ rest') : v = .str s ∧ rest = rest' := by
  have h_head : v.dumps.head? = some '"' := by
    rw [← head_dumps_append v rest, h]
    rfl
  obtain ⟨t, rfl⟩ := (head_dumps v).1 h_head
  obtain ⟨rfl, h_rest⟩ := quote_append_inj h
  exact ⟨rfl, h_rest⟩

/-- The texts behind the first one, each behind its comma. -/
def behindComma (texts : List (List Char)) : List Char :=
  if texts = [] then [] else ',' :: joinComma texts

theorem joinComma_cons (text : List Char) (texts : List (List Char)) :
    joinComma (text :: texts) = text ++ behindComma texts := by
  cases texts with
  | nil => simp [joinComma, behindComma]
  | cons text' texts => simp [joinComma, behindComma]

/-- **Fields whose text is the one of strings are those strings.** -/
theorem Json.eq_strings_of_joinComma {fields : List (String × Json)}
    {texts : List (String × String)}
    (h : joinComma (fields.map fieldDumps) ++ ['\x7d'] =
      joinComma ((strings texts).map fieldDumps) ++ ['\x7d']) : fields = strings texts := by
  induction fields generalizing texts with
  | nil =>
    cases texts with
    | nil => rfl
    | cons field texts =>
      simp only [strings, List.map_cons, joinComma_cons, fieldDumps, fieldText, quote] at h
      exact absurd (List.cons.inj h).1 (by decide)
  | cons field fields ih =>
    cases texts with
    | nil =>
      simp only [List.map_cons, joinComma_cons, fieldDumps, fieldText, quote] at h
      exact absurd (List.cons.inj h).1 (by decide)
    | cons field' texts =>
      obtain ⟨key, v⟩ := field
      obtain ⟨key', s⟩ := field'
      simp only [strings, List.map_cons, joinComma_cons, fieldDumps, fieldText,
        List.append_assoc] at h
      obtain ⟨rfl, h_value⟩ := quote_append_inj h
      obtain ⟨rfl, h_rest⟩ := eq_str_of_append (List.cons.inj h_value).2
      -- behind the first field both texts end, or both go on with a comma
      have h_fields : fields = strings texts := by
        refine ih ?_
        cases fields with
        | nil =>
          cases texts with
          | nil => rfl
          | cons field' texts =>
            simp only [List.map_nil, List.map_cons, behindComma, reduceCtorEq, if_true,
              if_false] at h_rest
            exact absurd (List.cons.inj h_rest).1 (by decide)
        | cons field fields =>
          cases texts with
          | nil =>
            simp only [List.map_nil, List.map_cons, behindComma, reduceCtorEq, if_true,
              if_false] at h_rest
            exact absurd (List.cons.inj h_rest).1 (by decide)
          | cons field' texts =>
            simp only [List.map_cons, behindComma, reduceCtorEq, if_false] at h_rest
            exact (List.cons.inj h_rest).2
      rw [h_fields]
      rfl

/-- **A value whose text is the one of an object of strings** is an object of the same
strings. -/
theorem Json.eq_strings_of_dumps {v : Json} {texts : List (String × String)}
    (h : v.dumps = (Json.obj (strings texts)).dumps) :
    ∃ fields, v = .obj fields ∧ sortKeys fields = sortKeys (strings texts) := by
  have h_head : v.dumps.head? = some '\x7b' := by
    rw [h]
    rfl
  obtain ⟨fields, rfl⟩ := (head_dumps v).2 h_head
  have h_sorted : sortKeys (strings texts) = strings (sortKeys texts) := sortKeys_map _ texts
  rw [dumps_obj, dumps_obj, h_sorted] at h
  refine ⟨fields, rfl, ?_⟩
  rw [h_sorted]
  exact eq_strings_of_joinComma (List.cons.inj h).2

end Python
