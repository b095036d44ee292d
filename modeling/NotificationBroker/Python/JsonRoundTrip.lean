import NotificationBroker.Python.JsonParse

/-!
# Reading back what has been written

`Json.loads_text` is the round trip of the JSON texts: reading what `json.dumps` has
written yields the value with the fields of its objects sorted (`Json.sorted`), which is
the same value to Python. `Json.sorted_eq_of_text_eq` follows: the text tells two values
apart.

The proof goes part by part, as the scanners do. A part of a text is read back whatever
comes behind it, as long as that does not go on with the part.
-/

namespace Python

/-! ### Reading strings back -/

theorem hexUnit_hexDigit {n : ℕ} (hn : n < 32) :
    hexUnit '0' '0' (hexDigit (n / 16)) (hexDigit (n % 16)) = some n := by
  revert n
  decide

/-- Reading the text of one character yields its code unit. -/
theorem stringUnits_escapeChar (c : Char) (rest : List Char) :
    stringUnits (escapeChar c ++ rest) =
      (stringUnits rest).map fun read => (c.toNat :: read.1, read.2) := by
  have h_bind : ∀ unit, (do
      let read ← stringUnits rest
      return (unit :: read.1, read.2)) =
        (stringUnits rest).map fun read => (unit :: read.1, read.2) := by
    intro unit
    cases stringUnits rest <;> rfl
  unfold escapeChar
  split_ifs with h_quote h_back h_n h_r h_t h_b h_f h_ctrl
  · subst h_quote
    exact h_bind _
  · subst h_back
    exact h_bind _
  · subst h_n
    exact h_bind _
  · subst h_r
    exact h_bind _
  · subst h_t
    exact h_bind _
  · rw [h_b]
    exact h_bind _
  · rw [h_f]
    exact h_bind _
  · -- the other control characters are written as four hexadecimal digits
    have h_unit := hexUnit_hexDigit h_ctrl
    rw [← h_bind]
    simp only [List.cons_append, List.nil_append, stringUnits]
    rw [h_unit]
    rfl
  · rw [List.cons_append, List.nil_append, stringUnits.eq_def]
    simp only [h_quote, h_back, h_ctrl, if_false]
    exact h_bind _

theorem stringUnits_escaped (chars rest : List Char) :
    stringUnits (chars.flatMap escapeChar ++ '"' :: rest) = some (chars.map Char.toNat, rest) := by
  induction chars with
  | nil =>
    rw [List.flatMap_nil, List.nil_append, stringUnits.eq_def]
    rfl
  | cons c chars ih =>
    rw [List.flatMap_cons, List.append_assoc, stringUnits_escapeChar, ih]
    rfl

theorem charOfUnit_toNat (c : Char) : charOfUnit c.toNat = some c := by
  have h_valid : c.toNat.isValidChar := c.valid
  rw [charOfUnit, if_pos h_valid, Char.ofNat_toNat]

/-- No character is half of a surrogate pair. -/
theorem joinUnits_toNat (chars : List Char) : joinUnits (chars.map Char.toNat) = some chars := by
  induction chars with
  | nil => rfl
  | cons c chars ih =>
    cases chars with
    | nil => simp [joinUnits, charOfUnit_toNat]
    | cons d chars =>
      have h_valid : c.toNat < 0xD800 ∨ (0xDFFF < c.toNat ∧ c.toNat < 0x110000) := c.valid
      have h_pair : ¬ (0xD800 ≤ c.toNat ∧ c.toNat ≤ 0xDBFF ∧ 0xDC00 ≤ d.toNat ∧
          d.toNat ≤ 0xDFFF) := by
        omega
      rw [List.map_cons, List.map_cons, joinUnits, if_neg h_pair, charOfUnit_toNat,
        ← List.map_cons, ih]
      rfl

/-- **A string is read back.** -/
theorem readString_escaped (s : String) (rest : List Char) :
    readString (s.toList.flatMap escapeChar ++ '"' :: rest) = some (s, rest) := by
  rw [readString, stringUnits_escaped]
  simp only [Option.bind_eq_bind, Option.bind_some, joinUnits_toNat, String.ofList_toList]
  rfl

/-! ### Reading numbers back -/

/-- A text that no number goes on with. -/
def EndsNumber (rest : List Char) : Prop :=
  ∀ c, rest.head? = some c → c.isDigit = false ∧ c ≠ '.' ∧ c ≠ 'e' ∧ c ≠ 'E'

theorem endsNumber_nil : EndsNumber [] := fun c h => absurd h (by simp)

theorem endsNumber_cons {c : Char} {rest : List Char}
    (h : c.isDigit = false ∧ c ≠ '.' ∧ c ≠ 'e' ∧ c ≠ 'E') : EndsNumber (c :: rest) :=
  fun _ h_d => Option.some.inj h_d ▸ h

/-- The digits at the front of a text. -/
theorem span_digits {digits rest : List Char} (h_digits : ∀ c ∈ digits, c.isDigit = true)
    (h_rest : ∀ c, rest.head? = some c → c.isDigit = false) :
    (digits ++ rest).span Char.isDigit = (digits, rest) := by
  rw [List.span_eq_takeWhile_dropWhile, List.takeWhile_append_of_pos h_digits,
    List.dropWhile_append_of_pos h_digits]
  cases rest with
  | nil => simp
  | cons c rest =>
    have h_c := h_rest c rfl
    rw [List.takeWhile_cons_of_neg (by simp [h_c]), List.dropWhile_cons_of_neg (by simp [h_c]),
      List.append_nil]

theorem isDigit_toDigits (n : ℕ) : ∀ c ∈ Nat.toDigits 10 n, c.isDigit = true :=
  fun _ hc => Nat.isDigit_of_mem_toDigits (by decide) (by decide) hc

/-- A number that is not zero is written without zeros in front. -/
theorem exists_toDigits {n : ℕ} (hn : n ≠ 0) :
    ∃ c rest, Nat.toDigits 10 n = c :: rest ∧ c ≠ '0' := by
  induction n using Nat.strong_induction_on with
  | _ n ih =>
    by_cases h_lt : n < 10
    · refine ⟨n.digitChar, [], Nat.toDigits_of_lt_base h_lt, ?_⟩
      interval_cases n <;> first | exact absurd rfl hn | decide
    · obtain ⟨c, rest, h_digits, h_c⟩ := ih (n / 10) (by omega) (by omega)
      refine ⟨c, rest ++ [(n % 10).digitChar], ?_, h_c⟩
      rw [Nat.toDigits_of_base_le (by decide) (by omega), h_digits]
      rfl

/-- The text of a number, in the parts the scanner reads. -/
structure NumberText (sign digits fraction exponent : List Char) : Prop where
  sign_eq : sign = [] ∨ sign = ['-']
  all_digits : ∀ c ∈ digits, c.isDigit = true
  leading : digits = ['0'] ∨ ∃ c rest, digits = c :: rest ∧ c ≠ '0'
  fraction_eq : fraction = [] ∨
    ∃ ds, fraction = '.' :: ds ∧ ds ≠ [] ∧ ∀ c ∈ ds, c.isDigit = true
  exponent_eq : exponent = [] ∨ ∃ c ds, exponent = 'e' :: c :: ds ∧ (c = '-' ∨ c = '+') ∧ ds ≠ [] ∧
    ∀ c ∈ ds, c.isDigit = true

namespace NumberText

variable {sign digits fraction exponent rest : List Char}

/-- What follows the fraction is not a digit and not a point. -/
theorem head_exponent (h : NumberText sign digits fraction exponent) (h_rest : EndsNumber rest) :
    ∀ c, (exponent ++ rest).head? = some c → c.isDigit = false ∧ c ≠ '.' := by
  intro c hc
  rcases h.exponent_eq with rfl | ⟨s, ds, rfl, -, -, -⟩
  · exact ⟨(h_rest c hc).1, (h_rest c hc).2.1⟩
  · obtain rfl := Option.some.inj hc
    decide

/-- What follows the integer part is not a digit. -/
theorem head_fraction (h : NumberText sign digits fraction exponent) (h_rest : EndsNumber rest) :
    ∀ c, (fraction ++ (exponent ++ rest)).head? = some c → c.isDigit = false := by
  intro c hc
  rcases h.fraction_eq with rfl | ⟨ds, rfl, -, -⟩
  · exact (h.head_exponent h_rest c hc).1
  · obtain rfl := Option.some.inj hc
    decide

theorem exponentPart_eq (h : NumberText sign digits fraction exponent) (h_rest : EndsNumber rest) :
    exponentPart (exponent ++ rest) = (exponent, rest) := by
  rcases h.exponent_eq with rfl | ⟨c, ds, rfl, h_sign, h_ds, h_digits⟩
  · cases rest with
    | nil => rfl
    | cons c rest =>
      have h_c := (h_rest c rfl).2.2
      simp only [List.nil_append, exponentPart, h_c, or_self, if_false]
  · have h_signPart : signPart (c :: (ds ++ rest)) = ([c], ds ++ rest) := by
      rcases h_sign with rfl | rfl <;> rfl
    have h_span := span_digits h_digits fun c hc => (h_rest c hc).1
    simp only [List.cons_append, exponentPart, true_or, if_true, h_signPart, h_span, h_ds,
      if_false, List.nil_append]

theorem fractionPart_eq (h : NumberText sign digits fraction exponent) (h_rest : EndsNumber rest) :
    fractionPart (fraction ++ (exponent ++ rest)) = (fraction, exponent ++ rest) := by
  have h_head := h.head_exponent h_rest
  rcases h.fraction_eq with rfl | ⟨ds, rfl, h_ds, h_digits⟩
  · generalize exponent ++ rest = text at h_head
    rw [List.nil_append]
    unfold fractionPart
    split
    next => exact absurd rfl (h_head '.' rfl).2
    next => rfl
  · have h_span := span_digits h_digits fun c hc => (h_head c hc).1
    simp only [List.cons_append, fractionPart, h_span, h_ds, if_false]

theorem integerPart_eq (h : NumberText sign digits fraction exponent) (h_rest : EndsNumber rest) :
    integerPart (digits ++ (fraction ++ (exponent ++ rest))) =
      some (digits, fraction ++ (exponent ++ rest)) := by
  rcases h.leading with rfl | ⟨c, ds, rfl, h_c⟩
  · rfl
  · have h_digit := h.all_digits c List.mem_cons_self
    have h_span := span_digits h.all_digits (h.head_fraction h_rest)
    rw [List.cons_append] at h_span ⊢
    simp only [integerPart, h_c, h_digit, if_false, if_true, h_span]

/-- **A number is read back.** -/
theorem readNumber_eq (floatOf : List Char → PyFloat)
    (h : NumberText sign digits fraction exponent) (h_rest : EndsNumber rest) :
    readNumber floatOf (sign ++ digits ++ fraction ++ exponent ++ rest) =
      some (if fraction = [] ∧ exponent = [] then
          .int (if sign = [] then (Nat.ofDigitChars 10 digits 0 : ℤ)
            else -(Nat.ofDigitChars 10 digits 0 : ℤ))
        else .float (floatOf (sign ++ digits ++ fraction ++ exponent)), rest) := by
  have h_text : sign ++ digits ++ fraction ++ exponent ++ rest =
      sign ++ (digits ++ (fraction ++ (exponent ++ rest))) := by
    simp only [List.append_assoc]
  -- the sign is all that the minus part takes
  have h_sign : minusPart (sign ++ (digits ++ (fraction ++ (exponent ++ rest)))) =
      (sign, digits ++ (fraction ++ (exponent ++ rest))) := by
    rcases h.sign_eq with rfl | rfl
    · have h_minus : '-' ∉ digits := fun h_mem => absurd (h.all_digits _ h_mem) (by decide)
      rcases h.leading with rfl | ⟨c, ds, rfl, -⟩
      · rfl
      · rw [List.nil_append, List.cons_append, minusPart]
        exact fun _ h_eq => h_minus ((List.cons.inj h_eq).1 ▸ List.mem_cons_self)
    · rfl
  rw [h_text, readNumber, h_sign]
  simp only [h.integerPart_eq h_rest, h.fractionPart_eq h_rest, h.exponentPart_eq h_rest,
    Option.bind_eq_bind, Option.bind_some]
  split <;> rfl

end NumberText

theorem leading_toDigits (n : ℕ) : Nat.toDigits 10 n = ['0'] ∨
    ∃ c rest, Nat.toDigits 10 n = c :: rest ∧ c ≠ '0' := by
  by_cases hn : n = 0
  · subst hn
    exact .inl (Nat.toDigits_zero 10)
  · exact .inr (exists_toDigits hn)

/-- An integer is read back. -/
theorem readNumber_intText (floatOf : List Char → PyFloat) (n : ℤ) {rest : List Char}
    (h_rest : EndsNumber rest) :
    readNumber floatOf (intText n ++ rest) = some (.int n, rest) := by
  have h_parts : ∀ sign, sign = [] ∨ sign = ['-'] →
      NumberText sign (Nat.toDigits 10 n.natAbs) [] [] := fun sign h_sign =>
    ⟨h_sign, isDigit_toDigits _, leading_toDigits _, .inl rfl, .inl rfl⟩
  unfold intText
  split
  -- the sign is read apart from the digits, which are those of the amount
  next h_neg =>
    have h_read := (h_parts ['-'] (.inr rfl)).readNumber_eq floatOf h_rest
    simp only [List.append_nil, List.cons_append, List.nil_append] at h_read
    rw [List.cons_append, h_read]
    simp only [and_self, if_true, reduceCtorEq, if_false, Nat.ofDigitChars_ten_toDigits]
    rw [Int.ofNat_natAbs_of_nonpos h_neg.le, neg_neg]
  next h_nonneg =>
    have h_read := (h_parts [] (.inl rfl)).readNumber_eq floatOf h_rest
    simp only [List.append_nil, List.nil_append] at h_read
    rw [h_read]
    simp only [and_self, if_true, Nat.ofDigitChars_ten_toDigits]
    rw [Int.natAbs_of_nonneg (not_lt.mp h_nonneg)]

/-- The text of a finite float is that of a number with a fraction or an exponent. -/
theorem decimalText_parts (negative : Bool) (m : ℕ) (e : ℤ)
    (h_shortest : m % 10 ≠ 0 ∨ (m = 0 ∧ e = 0)) :
    ∃ sign digits fraction exponent, NumberText sign digits fraction exponent ∧
      decimalText negative m e = sign ++ digits ++ fraction ++ exponent ∧
      ¬ (fraction = [] ∧ exponent = []) := by
  have h_sign : (if negative then ['-'] else []) = [] ∨
      (if negative then ['-'] else []) = ['-'] := by
    cases negative <;> simp
  generalize h_s : (if negative then ['-'] else [] : List Char) = sign at h_sign
  have h_zeros : ∀ k, ∀ c ∈ List.replicate k '0', c.isDigit = true := fun k c hc => by
    rw [List.eq_of_mem_replicate hc]
    decide
  have h_digits := isDigit_toDigits m
  have h_pos : 0 < (Nat.toDigits 10 m).length := Nat.length_toDigits_pos
  unfold decimalText
  dsimp only
  rw [h_s]
  split
  next h_near =>
    split
    next h_point =>
      -- the point stands before the digits
      refine ⟨sign, ['0'], '.' :: (List.replicate (-((Nat.toDigits 10 m).length + e)).toNat '0' ++
        Nat.toDigits 10 m), [], ⟨h_sign, List.forall_mem_singleton.mpr rfl, .inl rfl,
          .inr ⟨_, rfl, ?_, ?_⟩, .inl rfl⟩,
        by simp, by simp⟩
      · exact List.append_ne_nil_of_right_ne_nil _ Nat.toDigits_ne_nil
      · exact List.forall_mem_append.mpr ⟨h_zeros _, h_digits⟩
    next h_point =>
      split
      next h_long =>
        -- the point stands behind the digits
        refine ⟨sign, Nat.toDigits 10 m ++ List.replicate
          (((Nat.toDigits 10 m).length + e).toNat - (Nat.toDigits 10 m).length) '0', ['.', '0'], [],
          ⟨h_sign, List.forall_mem_append.mpr ⟨h_digits, h_zeros _⟩, ?_,
            .inr ⟨['0'], rfl, by decide, List.forall_mem_singleton.mpr rfl⟩, .inl rfl⟩,
          by simp, by simp⟩
        rcases h_shortest with h_m | ⟨rfl, rfl⟩
        · obtain ⟨c, rest, h_eq, h_c⟩ := exists_toDigits (n := m) fun h_zero =>
            h_m (by simp [h_zero])
          exact .inr ⟨c, _, by rw [h_eq]; rfl, h_c⟩
        · exact .inl rfl
      next h_short =>
        -- the point stands among the digits
        refine ⟨sign, (Nat.toDigits 10 m).take ((Nat.toDigits 10 m).length + e).toNat,
          '.' :: (Nat.toDigits 10 m).drop ((Nat.toDigits 10 m).length + e).toNat, [],
          ⟨h_sign, fun c hc => h_digits c (List.mem_of_mem_take hc), ?_,
            .inr ⟨_, rfl, ?_, fun c hc => h_digits c (List.mem_of_mem_drop hc)⟩, .inl rfl⟩,
          by simp, by simp⟩
        · have h_split : 0 < ((Nat.toDigits 10 m).length + e).toNat := by omega
          rcases leading_toDigits m with h_eq | ⟨c, rest, h_eq, h_c⟩
          · rw [h_eq] at h_short h_split
            simp only [List.length_cons, List.length_nil] at h_short h_split
            omega
          · refine .inr ⟨c, rest.take (((Nat.toDigits 10 m).length + e).toNat - 1), ?_, h_c⟩
            obtain ⟨k, hk⟩ := Nat.exists_eq_succ_of_ne_zero h_split.ne'
            rw [hk, h_eq]
            rfl
        · exact fun h_nil => by
            have h_length := List.drop_eq_nil_iff.mp h_nil
            omega
  next h_far =>
    -- one digit stands before the point, and an exponent follows
    have h_exponent : ∀ ds : List Char,
        ds = Nat.toDigits 10 ((Nat.toDigits 10 m).length + e - 1).natAbs →
        (if ds.length < 2 then '0' :: ds else ds) ≠ [] ∧
          ∀ c ∈ (if ds.length < 2 then '0' :: ds else ds), c.isDigit = true := by
      rintro ds rfl
      have h_ds := isDigit_toDigits ((Nat.toDigits 10 m).length + e - 1).natAbs
      split
      · exact ⟨by simp, List.forall_mem_cons.mpr ⟨by decide, h_ds⟩⟩
      · exact ⟨Nat.toDigits_ne_nil, h_ds⟩
    obtain ⟨h_ne, h_all⟩ := h_exponent _ rfl
    refine ⟨sign, (Nat.toDigits 10 m).take 1,
      if (Nat.toDigits 10 m).length = 1 then [] else '.' :: (Nat.toDigits 10 m).drop 1, _,
      ⟨h_sign, fun c hc => h_digits c (List.mem_of_mem_take hc), ?_, ?_,
        .inr ⟨_, _, rfl, ?_, h_ne, h_all⟩⟩, rfl, by simp⟩
    · rcases leading_toDigits m with h_eq | ⟨c, rest, h_eq, h_c⟩
      · exact .inl (by rw [h_eq]; rfl)
      · exact .inr ⟨c, [], by rw [h_eq]; rfl, h_c⟩
    · split
      · exact .inl rfl
      · refine .inr ⟨_, rfl, fun h_nil => ?_, fun c hc => h_digits c (List.mem_of_mem_drop hc)⟩
        have h_length := List.drop_eq_nil_iff.mp h_nil
        omega
    · split
      · exact .inl rfl
      · exact .inr rfl

theorem readNumber_decimalText (floatOf : List Char → PyFloat) {negative : Bool} {m : ℕ} {e : ℤ}
    (h_shortest : m % 10 ≠ 0 ∨ (m = 0 ∧ e = 0)) {rest : List Char} (h_rest : EndsNumber rest) :
    readNumber floatOf (decimalText negative m e ++ rest) =
      some (.float (floatOf (decimalText negative m e)), rest) := by
  obtain ⟨sign, digits, fraction, exponent, h_text, h_eq, h_float⟩ :=
    decimalText_parts negative m e h_shortest
  rw [h_eq, h_text.readNumber_eq floatOf h_rest, if_neg h_float]

/-! ### Reading values back -/

namespace Json

mutual

/-- The value with the fields of its objects sorted: the same value to Python. -/
def sorted : Json → Json
  | arr items => arr (sortedItems items)
  | obj fields => obj (sortKeys (sortedFields fields))
  | v => v

def sortedItems : List Json → List Json
  | [] => []
  | v :: vs => sorted v :: sortedItems vs

def sortedFields : List (String × Json) → List (String × Json)
  | [] => []
  | (k, v) :: rest => (k, sorted v) :: sortedFields rest

end

mutual

/-- A value Python can have: the keys of an object differ, and a float is what `float`
reads from its own text. -/
def Proper (floatOf : List Char → PyFloat) : Json → Prop
  | float (.finite negative m e h) =>
    floatOf (decimalText negative m e) = .finite negative m e h
  | arr items => ProperItems floatOf items
  | obj fields => (fields.map Prod.fst).Nodup ∧ ProperFields floatOf fields
  | _ => True

def ProperItems (floatOf : List Char → PyFloat) : List Json → Prop
  | [] => True
  | v :: vs => Proper floatOf v ∧ ProperItems floatOf vs

def ProperFields (floatOf : List Char → PyFloat) : List (String × Json) → Prop
  | [] => True
  | (_, v) :: rest => Proper floatOf v ∧ ProperFields floatOf rest

end

theorem sortedItems_eq_map (items : List Json) : sortedItems items = items.map sorted := by
  induction items with
  | nil => rfl
  | cons v vs ih => rw [sortedItems, ih, List.map_cons]

theorem sortedFields_eq_map (fields : List (String × Json)) :
    sortedFields fields = fields.map fun kv => (kv.1, kv.2.sorted) := by
  induction fields with
  | nil => rfl
  | cons kv rest ih => rw [sortedFields, ih, List.map_cons]

end Json

/-- Sorting by keys does not look at the values. -/
theorem sortKeys_map {α β : Type} (f : α → β) (fields : List (String × α)) :
    sortKeys (fields.map fun kv => (kv.1, f kv.2)) =
      (sortKeys fields).map fun kv => (kv.1, f kv.2) :=
  (List.map_insertionSort (fun a b : String × α => a.1 ≤ b.1)
    (fun a b : String × β => a.1 ≤ b.1) _ fields fun _ _ _ _ => Iff.rfl).symm

theorem sortKeys_perm {α : Type} (fields : List (String × α)) : (sortKeys fields).Perm fields :=
  List.perm_insertionSort _ _

theorem sortKeys_pairwise {α : Type} (fields : List (String × α)) :
    (sortKeys fields).Pairwise fun a b => a.1 ≤ b.1 := by
  have h_total : Std.Total fun a b : String × α => a.1 ≤ b.1 :=
    ⟨fun a b => String.le_total a.1 b.1⟩
  have h_trans : IsTrans (String × α) fun a b => a.1 ≤ b.1 := ⟨fun _ _ _ => String.le_trans⟩
  exact List.pairwise_insertionSort _ fields

theorem sortKeys_sortKeys {α : Type} (fields : List (String × α)) :
    sortKeys (sortKeys fields) = sortKeys fields :=
  (sortKeys_pairwise fields).insertionSort_eq

/-- Where the keys differ, the sorted fields do not depend on the order they came in. -/
theorem sortKeys_eq_of_perm {α : Type} {fields fields' : List (String × α)}
    (h : fields.Perm fields') (h_nodup : (fields.map Prod.fst).Nodup) :
    sortKeys fields = sortKeys fields' := by
  have h_perm : (sortKeys fields).Perm (sortKeys fields') :=
    (sortKeys_perm fields).trans (h.trans (sortKeys_perm fields').symm)
  have h_keys : ((sortKeys fields).map Prod.fst).Nodup :=
    ((sortKeys_perm fields).map Prod.fst).nodup_iff.mpr h_nodup
  refine h_perm.eq_of_pairwise (fun a b ha hb h_le h_ge => ?_) (sortKeys_pairwise fields)
    (sortKeys_pairwise fields')
  exact List.inj_on_of_nodup_map h_keys ha (h_perm.mem_iff.mpr hb) (String.le_antisymm h_le h_ge)

/-- A dictionary built from distinct keys has them in the order they came in. -/
theorem dictOf_of_nodup {pairs : List (String × Json)} (h : (pairs.map Prod.fst).Nodup) :
    dictOf pairs = pairs := by
  -- any fields read before, as long as no key comes twice
  have h_fold : ∀ fields : List (String × Json), ((fields ++ pairs).map Prod.fst).Nodup →
      pairs.foldl setField fields = fields ++ pairs := by
    clear h
    induction pairs with
    | nil => intro fields _; simp
    | cons pair pairs ih =>
      intro fields h_nodup
      have h_new : pair.1 ∉ fields.map Prod.fst := by
        rw [List.map_append, List.nodup_append] at h_nodup
        exact fun h_mem => h_nodup.2.2 _ h_mem _ (by simp) rfl
      rw [List.foldl_cons, setField, if_neg h_new, ih _ (by simpa using h_nodup)]
      simp
  exact h_fold [] h

theorem lookup_cons_eq_ite {α : Type} (key : String) (field : String × α)
    (rest : List (String × α)) :
    (field :: rest).lookup key = if key = field.1 then some field.2 else rest.lookup key := by
  obtain ⟨k, v⟩ := field
  by_cases h : key = k
  · simp [h]
  · have h_beq : (key == k) = false := beq_eq_false_iff_ne.mpr h
    rw [List.lookup_cons, h_beq, if_neg h]

/-- Where the keys differ, the order of the fields does not matter to a lookup. -/
theorem lookup_perm {α : Type} {fields fields' : List (String × α)} (h : fields.Perm fields')
    (h_nodup : (fields.map Prod.fst).Nodup) (key : String) :
    fields.lookup key = fields'.lookup key := by
  induction h with
  | nil => rfl
  | cons field _ ih =>
    rw [lookup_cons_eq_ite, lookup_cons_eq_ite, ih (List.nodup_cons.mp h_nodup).2]
  -- distinct keys: at most one of the two is the key looked up
  | swap a b rest =>
    have h_ne : b.1 ≠ a.1 := fun h_eq => by simp [h_eq] at h_nodup
    simp only [lookup_cons_eq_ite]
    split_ifs with h_b h_a
    · exact absurd (h_b.symm.trans h_a) h_ne
    all_goals rfl
  | trans h₁ _ ih₁ ih₂ =>
    rw [ih₁ h_nodup, ih₂ ((h₁.map Prod.fst).nodup_iff.mp h_nodup)]

theorem lookup_map {α β : Type} (f : α → β) (fields : List (String × α)) (key : String) :
    (fields.map fun kv => (kv.1, f kv.2)).lookup key = (fields.lookup key).map f := by
  induction fields with
  | nil => rfl
  | cons field rest ih =>
    rw [List.map_cons, lookup_cons_eq_ite, lookup_cons_eq_ite, ih]
    split_ifs <;> rfl

/-- Sorting the fields keeps them under their keys. -/
theorem Json.get?_sorted {fields : List (String × Json)} (h : (fields.map Prod.fst).Nodup)
    (key : String) : (obj fields).sorted.get? key = ((obj fields).get? key).map sorted := by
  have h_keys : ((sortedFields fields).map Prod.fst).Nodup := by
    rwa [sortedFields_eq_map, List.map_map]
  rw [sorted, get?, ← lookup_perm (sortKeys_perm _).symm h_keys, sortedFields_eq_map, lookup_map,
    get?]

section Values

variable (floatOf : List Char → PyFloat)

/-- The text of the value is read back, whatever comes behind it. -/
def Reads (v : Json) : Prop :=
  ∀ n rest, 2 * (v.dumps ++ rest).length ≤ n → EndsNumber rest →
    readValue floatOf n (v.dumps ++ rest) = some (v.sorted, rest)

/-- A text that begins with something else than a blank, a closing bracket or a byte
order mark. -/
def Starts (text : List Char) : Prop :=
  ∃ c rest, text = c :: rest ∧ c ∉ [' ', '\t', '\n', '\r', ']', '}', '\ufeff']

variable {floatOf}

theorem skipSpace_starts {text : List Char} (h : Starts text) (rest : List Char) :
    skipSpace (text ++ rest) = text ++ rest := by
  obtain ⟨c, text, rfl, h_c⟩ := h
  simp only [List.mem_cons, List.not_mem_nil, or_false, not_or] at h_c
  rw [List.cons_append, skipSpace, List.dropWhile_cons_of_neg (by simp [h_c])]

/-- A text that begins as numbers do. -/
def StartsNumber (text : List Char) : Prop :=
  ∃ c rest, c.isDigit = true ∧ (text = c :: rest ∨ text = '-' :: c :: rest)

theorem StartsNumber.starts {text : List Char} (h : StartsNumber text) : Starts text := by
  obtain ⟨c, rest, h_digit, rfl | rfl⟩ := h
  · refine ⟨c, rest, rfl, fun h_mem => ?_⟩
    simp only [List.mem_cons, List.not_mem_nil, or_false] at h_mem
    rcases h_mem with rfl | rfl | rfl | rfl | rfl | rfl | rfl <;> exact absurd h_digit (by decide)
  · exact ⟨'-', c :: rest, rfl, by decide⟩

theorem StartsNumber.append {text : List Char} (h : StartsNumber text) (rest : List Char) :
    StartsNumber (text ++ rest) := by
  obtain ⟨c, text, h_digit, rfl | rfl⟩ := h
  · exact ⟨c, text ++ rest, h_digit, .inl rfl⟩
  · exact ⟨c, text ++ rest, h_digit, .inr rfl⟩

theorem NumberText.startsNumber {sign digits fraction exponent : List Char}
    (h : NumberText sign digits fraction exponent) :
    StartsNumber (sign ++ digits ++ fraction ++ exponent) := by
  obtain ⟨c, ds, rfl⟩ : ∃ c ds, digits = c :: ds := by
    rcases h.leading with rfl | ⟨c, ds, rfl, -⟩ <;> exact ⟨_, _, rfl⟩
  refine ⟨c, ds ++ fraction ++ exponent, h.all_digits c List.mem_cons_self, ?_⟩
  rcases h.sign_eq with rfl | rfl
  · exact .inl (by simp)
  · exact .inr (by simp)

theorem startsNumber_intText (n : ℤ) : StartsNumber (intText n) := by
  have h_parts : ∀ sign, sign = [] ∨ sign = ['-'] →
      NumberText sign (Nat.toDigits 10 n.natAbs) [] [] := fun sign h_sign =>
    ⟨h_sign, isDigit_toDigits _, leading_toDigits _, .inl rfl, .inl rfl⟩
  unfold intText
  split
  · simpa using (h_parts ['-'] (.inr rfl)).startsNumber
  · simpa using (h_parts [] (.inl rfl)).startsNumber

/-- No word begins as a number does. -/
theorem StartsNumber.readWord_eq {text : List Char} (h : StartsNumber text) :
    readWord text = none := by
  obtain ⟨c, rest, h_digit, h_text⟩ := h
  have h_ne : c ≠ 'n' ∧ c ≠ 't' ∧ c ≠ 'f' ∧ c ≠ 'N' ∧ c ≠ 'I' ∧ c ≠ '-' := by
    refine ⟨?_, ?_, ?_, ?_, ?_, ?_⟩ <;> rintro rfl <;> exact absurd h_digit (by decide)
  obtain ⟨h_n, h_t, h_f, h_N, h_I, h_minus⟩ := h_ne
  rcases h_text with rfl | rfl
  · simp [readWord, jsonWords, Ne.symm h_n, Ne.symm h_t, Ne.symm h_f, Ne.symm h_N,
      Ne.symm h_I, Ne.symm h_minus]
  · simp [readWord, jsonWords, Ne.symm h_I]

/-- A value that is not a string, an array or an object is a word or a number. -/
theorem readValue_other {n : ℕ} {text : List Char}
    (h : ∀ c, text.head? = some c → c ≠ '"' ∧ c ≠ '[' ∧ c ≠ '{') :
    readValue floatOf (n + 1) text = (readWord text <|> readNumber floatOf text) := by
  rw [readValue]
  · rintro rest rfl
    exact absurd rfl (h '"' rfl).1
  · rintro rest rfl
    exact absurd rfl (h '[' rfl).2.1
  · rintro rest rfl
    exact absurd rfl (h '{' rfl).2.2

theorem StartsNumber.readValue_eq {n : ℕ} {text : List Char} (h : StartsNumber text) :
    readValue floatOf (n + 1) text = readNumber floatOf text := by
  rw [readValue_other, h.readWord_eq]
  · rfl
  · obtain ⟨c, rest, h_digit, h_text⟩ := h
    intro d hd
    rcases h_text with rfl | rfl
    · obtain rfl := Option.some.inj hd
      refine ⟨?_, ?_, ?_⟩ <;> rintro rfl <;> exact absurd h_digit (by decide)
    · obtain rfl := Option.some.inj hd
      decide

theorem startsNumber_decimalText (negative : Bool) (m : ℕ) (e : ℤ)
    (h_shortest : m % 10 ≠ 0 ∨ (m = 0 ∧ e = 0)) : StartsNumber (decimalText negative m e) := by
  obtain ⟨sign, digits, fraction, exponent, h_text, h_eq, -⟩ :=
    decimalText_parts negative m e h_shortest
  exact h_eq ▸ h_text.startsNumber

/-- The text of a value does not begin with a blank or a closing bracket. -/
theorem starts_dumps (v : Json) : Starts v.dumps := by
  cases v with
  | null => exact ⟨'n', ['u', 'l', 'l'], rfl, by decide⟩
  | bool b =>
    cases b with
    | true => exact ⟨'t', ['r', 'u', 'e'], rfl, by decide⟩
    | false => exact ⟨'f', ['a', 'l', 's', 'e'], rfl, by decide⟩
  | int n => exact (startsNumber_intText n).starts
  | float x =>
    cases x with
    | finite negative m e h_shortest =>
      exact (startsNumber_decimalText negative m e h_shortest).starts
    | inf negative =>
      cases negative with
      | true => exact ⟨'-', "Infinity".toList, rfl, by decide⟩
      | false => exact ⟨'I', "nfinity".toList, rfl, by decide⟩
    | nan => exact ⟨'N', ['a', 'N'], rfl, by decide⟩
  | str s => exact ⟨_, _, rfl, by decide⟩
  | arr items => exact ⟨_, _, rfl, by decide⟩
  | obj fields => exact ⟨_, _, rfl, by decide⟩

theorem exists_fuel {v : Json} {n : ℕ} {rest : List Char}
    (h : 2 * (v.dumps ++ rest).length ≤ n) : ∃ m, n = m + 1 := by
  obtain ⟨c, text, h_text, -⟩ := starts_dumps v
  rw [h_text, List.cons_append, List.length_cons] at h
  exact Nat.exists_eq_succ_of_ne_zero (by omega)

/-- A word is read back. -/
theorem reads_word {v : Json} (h_mem : (v.dumps, v) ∈ jsonWords) (h_sorted : v.sorted = v) :
    Reads floatOf v := by
  intro n rest h_fuel _
  obtain ⟨n, rfl⟩ := exists_fuel h_fuel
  rw [h_sorted]
  simp only [jsonWords, List.mem_cons, List.not_mem_nil, or_false, Prod.mk.injEq] at h_mem
  rcases h_mem with ⟨-, rfl⟩ | ⟨-, rfl⟩ | ⟨-, rfl⟩ | ⟨-, rfl⟩ | ⟨-, rfl⟩ | ⟨-, rfl⟩ <;> rfl

theorem reads_int (n : ℤ) : Reads floatOf (.int n) := by
  intro fuel rest h_fuel h_rest
  obtain ⟨fuel, rfl⟩ := exists_fuel h_fuel
  exact ((startsNumber_intText n).append rest).readValue_eq.trans
    (readNumber_intText floatOf n h_rest)

theorem reads_finite {negative : Bool} {m : ℕ} {e : ℤ}
    {h_shortest : m % 10 ≠ 0 ∨ (m = 0 ∧ e = 0)}
    (h : floatOf (decimalText negative m e) = .finite negative m e h_shortest) :
    Reads floatOf (.float (.finite negative m e h_shortest)) := by
  intro fuel rest h_fuel h_rest
  obtain ⟨fuel, rfl⟩ := exists_fuel h_fuel
  have h_start := (startsNumber_decimalText negative m e h_shortest).append rest
  refine h_start.readValue_eq.trans ?_
  rw [readNumber_decimalText floatOf h_shortest h_rest, h]
  rfl

theorem reads_str (s : String) : Reads floatOf (.str s) := by
  intro fuel rest h_fuel _
  obtain ⟨fuel, rfl⟩ := exists_fuel h_fuel
  have h_read := readString_escaped s rest
  simp only [Json.dumps, quote, List.cons_append, List.append_assoc, List.nil_append, readValue,
    h_read]
  rfl

theorem starts_joinComma {text : List Char} (h : Starts text) (texts : List (List Char)) :
    Starts (joinComma (text :: texts)) := by
  obtain ⟨c, text, rfl, h_c⟩ := h
  cases texts with
  | nil => exact ⟨c, text, rfl, h_c⟩
  | cons text' texts => exact ⟨c, _, rfl, h_c⟩

/-- **The items of an array are read back.** -/
theorem readItems_dumps {items : List Json} (h_ne : items ≠ [])
    (h_items : ∀ v ∈ items, Reads floatOf v) {n : ℕ} (rest : List Char)
    (h_fuel : 2 * (joinComma (items.map Json.dumps) ++ ']' :: rest).length + 1 ≤ n) :
    readItems floatOf n (joinComma (items.map Json.dumps) ++ ']' :: rest) =
      some (items.map Json.sorted, rest) := by
  induction items generalizing n with
  | nil => exact absurd rfl h_ne
  | cons v items ih =>
    obtain ⟨n, rfl⟩ : ∃ m, n = m + 1 := Nat.exists_eq_succ_of_ne_zero (by omega)
    have h_v := h_items v List.mem_cons_self
    -- the last item is followed by the bracket, any other by a comma
    cases items with
    | nil =>
      simp only [List.map_cons, List.map_nil, joinComma] at h_fuel ⊢
      have h_read := h_v n (']' :: rest) (by omega) (endsNumber_cons (by decide))
      simp only [readItems, h_read, Option.bind_eq_bind, Option.bind_some]
      rfl
    | cons v' items =>
      simp only [List.map_cons, joinComma, List.append_assoc, List.cons_append] at h_fuel ih ⊢
      have h_read := h_v n (',' :: (joinComma (v'.dumps :: items.map Json.dumps) ++ ']' :: rest))
        (by omega) (endsNumber_cons (by decide))
      have h_starts : Starts (joinComma (v'.dumps :: items.map Json.dumps)) :=
        starts_joinComma (starts_dumps v') _
      have h_rest := ih (n := n) (by simp) (fun u hu => h_items u (List.mem_cons_of_mem v hu)) (by
        simp only [List.length_append, List.length_cons] at h_fuel ⊢
        omega)
      have h_comma : skipSpace (',' :: (joinComma (v'.dumps :: items.map Json.dumps) ++
          ']' :: rest)) = ',' :: (joinComma (v'.dumps :: items.map Json.dumps) ++ ']' :: rest) :=
        rfl
      simp only [readItems, h_read, Option.bind_eq_bind, Option.bind_some, h_comma,
        skipSpace_starts h_starts, h_rest]
      rfl

/-- The text of a field. -/
def Json.fieldDumps (field : String × Json) : List Char := fieldText (field.1, field.2.dumps)

theorem Json.dumps_obj (fields : List (String × Json)) :
    (Json.obj fields).dumps =
      '{' :: joinComma ((sortKeys fields).map Json.fieldDumps) ++ ['}'] := by
  rw [Json.dumps, Json.dumpsFields_eq_map, sortKeys_map Json.dumps, List.map_map]
  rfl

section Field

variable {n : ℕ} {key : String} {v : Json} {text : List Char}

/-- The last field of an object. -/
theorem readFields_last
    (h_read : readValue floatOf n (v.dumps ++ '}' :: text) = some (v.sorted, '}' :: text)) :
    readFields floatOf (n + 1) (Json.fieldDumps (key, v) ++ '}' :: text) =
      some ([(key, v.sorted)], text) := by
  have h_colon : ∀ text, skipSpace (':' :: text) = ':' :: text := fun _ => rfl
  simp only [Json.fieldDumps, fieldText, quote, List.cons_append, List.append_assoc,
    List.nil_append, readFields, readString_escaped, Option.bind_eq_bind, Option.bind_some,
    h_colon, skipSpace_starts (starts_dumps v), h_read]
  rfl

/-- A field and the ones behind it. -/
theorem readFields_comma
    (h_read : readValue floatOf n (v.dumps ++ ',' :: text) = some (v.sorted, ',' :: text))
    {fields : List (String × Json)} {rest : List Char}
    (h_rest : readFields floatOf n (skipSpace text) = some (fields, rest)) :
    readFields floatOf (n + 1) (Json.fieldDumps (key, v) ++ ',' :: text) =
      some ((key, v.sorted) :: fields, rest) := by
  have h_colon : ∀ text, skipSpace (':' :: text) = ':' :: text := fun _ => rfl
  have h_comma : skipSpace (',' :: text) = ',' :: text := rfl
  simp only [Json.fieldDumps, fieldText, quote, List.cons_append, List.append_assoc,
    List.nil_append, readFields, readString_escaped, Option.bind_eq_bind, Option.bind_some,
    h_colon, skipSpace_starts (starts_dumps v), h_read, h_comma, h_rest]
  rfl

end Field

/-- **The fields of an object are read back.** -/
theorem readFields_dumps {fields : List (String × Json)} (h_ne : fields ≠ [])
    (h_fields : ∀ kv ∈ fields, Reads floatOf kv.2) {n : ℕ} (rest : List Char)
    (h_fuel : 2 * (joinComma (fields.map Json.fieldDumps) ++ '}' :: rest).length + 1 ≤ n) :
    readFields floatOf n (joinComma (fields.map Json.fieldDumps) ++ '}' :: rest) =
      some (fields.map fun kv => (kv.1, kv.2.sorted), rest) := by
  induction fields generalizing n with
  | nil => exact absurd rfl h_ne
  | cons field fields ih =>
    obtain ⟨n, rfl⟩ : ∃ m, n = m + 1 := Nat.exists_eq_succ_of_ne_zero (by omega)
    obtain ⟨key, v⟩ := field
    have h_v : Reads floatOf v := h_fields (key, v) List.mem_cons_self
    -- the value of a field is shorter than the field, so the fuel is enough
    have h_length : ∀ text : List Char, (v.dumps ++ text).length + 1 ≤
        (Json.fieldDumps (key, v) ++ text).length := by
      intro text
      simp only [Json.fieldDumps, fieldText, List.length_append, List.length_cons]
      omega
    cases fields with
    | nil =>
      simp only [List.map_cons, List.map_nil, joinComma] at h_fuel ⊢
      have h_le := h_length ('}' :: rest)
      exact readFields_last (h_v n ('}' :: rest) (by omega) (endsNumber_cons (by decide)))
    | cons field' fields =>
      simp only [List.map_cons, joinComma, List.append_assoc, List.cons_append] at h_fuel ih ⊢
      have h_starts : Starts (joinComma (Json.fieldDumps field' :: fields.map Json.fieldDumps)) :=
        starts_joinComma ⟨_, _, rfl, by decide⟩ _
      generalize joinComma (Json.fieldDumps field' :: fields.map Json.fieldDumps) = text at *
      have h_le := h_length (',' :: (text ++ '}' :: rest))
      have h_read := h_v n (',' :: (text ++ '}' :: rest)) (by omega) (endsNumber_cons (by decide))
      have h_rest := ih (n := n) (by simp)
        (fun kv h_kv => h_fields kv (List.mem_cons_of_mem _ h_kv)) (by
          simp only [List.length_append, List.length_cons] at h_le h_fuel ⊢
          omega)
      refine readFields_comma h_read ?_
      rw [skipSpace_starts h_starts, h_rest]

/-- An array that is not empty. -/
theorem readValue_bracket {n : ℕ} {text rest : List Char} (h : Starts text) :
    readValue floatOf (n + 1) ('[' :: (text ++ rest)) =
      (readItems floatOf n (text ++ rest)).map fun (items, rest) => (.arr items, rest) := by
  have h_skip := skipSpace_starts h rest
  obtain ⟨c, text, rfl, h_c⟩ := h
  simp only [List.mem_cons, List.not_mem_nil, or_false, not_or] at h_c
  simp only [readValue, h_skip]
  split
  next h_eq => exact absurd (List.cons.inj h_eq).1 h_c.2.2.2.2.1
  next => rfl

/-- An object that is not empty. -/
theorem readValue_brace {n : ℕ} {text rest : List Char} (h : Starts text) :
    readValue floatOf (n + 1) ('{' :: (text ++ rest)) =
      (readFields floatOf n (text ++ rest)).map fun (fields, rest) =>
        (.obj (dictOf fields), rest) := by
  have h_skip := skipSpace_starts h rest
  obtain ⟨c, text, rfl, h_c⟩ := h
  simp only [List.mem_cons, List.not_mem_nil, or_false, not_or] at h_c
  simp only [readValue, h_skip]
  split
  next h_eq => exact absurd (List.cons.inj h_eq).1 h_c.2.2.2.2.2.1
  next => rfl

theorem reads_arr {items : List Json} (h : ∀ v ∈ items, Reads floatOf v) :
    Reads floatOf (.arr items) := by
  intro n rest h_fuel _
  obtain ⟨n, rfl⟩ := exists_fuel h_fuel
  rw [Json.dumps, Json.dumpsItems_eq_map] at h_fuel ⊢
  rw [Json.sorted, Json.sortedItems_eq_map]
  cases items with
  | nil => rfl
  | cons v items =>
    have h_starts : Starts (joinComma ((v :: items).map Json.dumps)) :=
      starts_joinComma (starts_dumps v) _
    -- the items take two characters less than the array, and so less fuel
    have h_read := readItems_dumps (n := n) (List.cons_ne_nil v items) h rest (by
      simp only [List.length_append, List.length_cons, List.length_nil] at h_fuel ⊢
      omega)
    have h_text : '[' :: joinComma ((v :: items).map Json.dumps) ++ [']'] ++ rest =
        '[' :: (joinComma ((v :: items).map Json.dumps) ++ ']' :: rest) := by
      simp
    rw [h_text, readValue_bracket h_starts, h_read]
    rfl

theorem reads_obj {fields : List (String × Json)} (h_nodup : (fields.map Prod.fst).Nodup)
    (h : ∀ kv ∈ fields, Reads floatOf kv.2) : Reads floatOf (.obj fields) := by
  intro n rest h_fuel _
  obtain ⟨n, rfl⟩ := exists_fuel h_fuel
  rw [Json.dumps_obj] at h_fuel ⊢
  rw [Json.sorted, Json.sortedFields_eq_map, sortKeys_map Json.sorted]
  have h_perm := sortKeys_perm fields
  -- the fields are written in the order of their keys
  generalize sortKeys fields = sortedFields at h_fuel h_perm ⊢
  have h_fields : ∀ kv ∈ sortedFields, Reads floatOf kv.2 :=
    fun kv h_kv => h kv (h_perm.mem_iff.mp h_kv)
  cases sortedFields with
  | nil => rfl
  | cons field rest' =>
    have h_starts : Starts (joinComma ((field :: rest').map Json.fieldDumps)) :=
      starts_joinComma ⟨_, _, rfl, by decide⟩ _
    have h_read := readFields_dumps (n := n) (List.cons_ne_nil field rest') h_fields
      rest (by
        simp only [List.length_append, List.length_cons, List.length_nil] at h_fuel ⊢
        omega)
    have h_text : '{' :: joinComma ((field :: rest').map Json.fieldDumps) ++ ['}'] ++ rest =
        '{' :: (joinComma ((field :: rest').map Json.fieldDumps) ++ '}' :: rest) := by
      simp
    have h_keys : (((field :: rest').map fun kv => (kv.1, kv.2.sorted)).map Prod.fst).Nodup := by
      rw [List.map_map]
      exact (h_perm.map Prod.fst).nodup_iff.mpr h_nodup
    rw [h_text, readValue_brace h_starts, h_read, Option.map_some]
    dsimp only
    rw [dictOf_of_nodup h_keys]

mutual

/-- **The text of a value is read back.** -/
theorem reads_dumps : ∀ v : Json, v.Proper floatOf → Reads floatOf v
  | .null, _ => reads_word (.head _) rfl
  | .bool true, _ => reads_word (.tail _ (.head _)) rfl
  | .bool false, _ => reads_word (.tail _ (.tail _ (.head _))) rfl
  | .int n, _ => reads_int n
  | .float (.finite _ _ _ _), h => reads_finite h
  | .float .nan, _ => reads_word (.tail _ (.tail _ (.tail _ (.head _)))) rfl
  | .float (.inf false), _ => reads_word (.tail _ (.tail _ (.tail _ (.tail _ (.head _))))) rfl
  | .float (.inf true), _ =>
    reads_word (.tail _ (.tail _ (.tail _ (.tail _ (.tail _ (.head _)))))) rfl
  | .str s, _ => reads_str s
  | .arr items, h => reads_arr (reads_items items h)
  | .obj fields, h => reads_obj h.1 (reads_fields fields h.2)

theorem reads_items : ∀ items : List Json, Json.ProperItems floatOf items →
    ∀ v ∈ items, Reads floatOf v
  | [], _, _, h_mem => absurd h_mem List.not_mem_nil
  | v :: vs, h, u, h_mem => by
    rcases List.mem_cons.mp h_mem with h_eq | h_mem
    · exact h_eq ▸ reads_dumps v h.1
    · exact reads_items vs h.2 u h_mem

theorem reads_fields : ∀ fields : List (String × Json), Json.ProperFields floatOf fields →
    ∀ kv ∈ fields, Reads floatOf kv.2
  | [], _, _, h_mem => absurd h_mem List.not_mem_nil
  | (k, v) :: rest, h, kv, h_mem => by
    rcases List.mem_cons.mp h_mem with rfl | h_mem
    · exact reads_dumps v h.1
    · exact reads_fields rest h.2 kv h_mem

end

end Values

namespace Json

/-- **Reading what has been written** yields the same value. -/
theorem loads_text {floatOf : List Char → PyFloat} {v : Json} (h : v.Proper floatOf) :
    loads floatOf v.text = some v.sorted := by
  have h_read := reads_dumps v h (2 * v.dumps.length + 2) [] (by simp) endsNumber_nil
  have h_starts := starts_dumps v
  have h_skip := skipSpace_starts h_starts []
  rw [List.append_nil] at h_read h_skip
  -- what `dumps` writes starts with no byte order mark
  have h_head : v.dumps.head? ≠ some '\ufeff' := by
    obtain ⟨c, rest, h_text, h_c⟩ := h_starts
    rw [h_text]
    rintro h_eq
    obtain rfl := Option.some.inj h_eq
    exact h_c (by decide)
  unfold loads text
  simp only [String.toList_ofList, h_head, if_false, h_skip, h_read, Option.bind_eq_bind,
    Option.bind_some]
  rfl

/-- The text tells two values apart, unless they are the same value to Python. -/
theorem sorted_eq_of_text_eq {floatOf : List Char → PyFloat} {v v' : Json} (h : v.Proper floatOf)
    (h' : v'.Proper floatOf) (h_text : v.text = v'.text) : v.sorted = v'.sorted := by
  have h_loads := loads_text h
  rw [h_text, loads_text h'] at h_loads
  exact (Option.some.inj h_loads).symm

end Json

end Python
