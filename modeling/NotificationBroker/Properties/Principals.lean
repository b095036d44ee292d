import NotificationBroker.Core.Auth

/-!
# What a token is answered with

A token is read into a principal that is well formed, or it is refused with 401. There is one way
out besides: the type of the token is looked up in a set, and a list or an object is not hashable.
`decodeBearerToken_answered_iff` says that nothing else escapes.

There is one lemma for each of the three checks; the check of a scope is the same for every scope.
-/

namespace NotificationBroker

open Python

/-- What the endpoints rely on in a principal. -/
structure AuthenticatedPrincipal.WellFormed (principal : AuthenticatedPrincipal) : Prop where
  subject : 1 ≤ principal.subject.length ∧ principal.subject.length ≤ 256
  tokenType : principal.tokenType = "service" ∨ principal.tokenType = "user"
  scopes : principal.scopes.length ≤ 32
  scope : ∀ scope ∈ principal.scopes, 1 ≤ scope.length ∧ scope.length ≤ 128

/-- A well-formed principal, or a refusal with 401. -/
def Answered : Except AuthError AuthenticatedPrincipal → Prop
  | .ok principal => principal.WellFormed
  | .error (.http e) => e.statusCode = 401
  | .error (.typeError _) => False

/-- A value that cannot be hashed. -/
def unhashable : Json → Bool
  | .arr _ | .obj _ => true
  | _ => false

/-- A subject that is accepted. -/
def ValidSubject (subject : String) : Prop := 1 ≤ subject.length ∧ subject.length ≤ 256

theorem one_le_length_iff {text : String} : 1 ≤ text.length ↔ text ≠ "" := by
  rw [Nat.one_le_iff_ne_zero, Ne, String.length_eq_zero_iff]

section Checks

variable {value : Option Json}

theorem subjectOf_ok {subject : String} (h : subjectOf value = .ok subject) :
    value = some (.str subject) ∧ 1 ≤ subject.length ∧ subject.length ≤ 256 := by
  unfold subjectOf at h
  split at h
  next text =>
    split at h
    next => exact absurd h (by simp)
    next h_valid =>
      obtain rfl := Except.ok.inj h
      rw [not_or, not_lt] at h_valid
      exact ⟨rfl, one_le_length_iff.mpr h_valid.1, h_valid.2⟩
  next => exact absurd h (by simp)

theorem subjectOf_error {e : AuthError} (h : subjectOf value = .error e) :
    e = .http ⟨401, "invalid subject"⟩ := by
  unfold subjectOf at h
  split at h
  next text =>
    split at h
    next => exact (Except.error.inj h).symm
    next => exact absurd h (by simp)
  next => exact (Except.error.inj h).symm

theorem tokenTypeOf_ok {tokenType : String} (h : tokenTypeOf value = .ok tokenType) :
    value = some (.str tokenType) ∧ (tokenType = "service" ∨ tokenType = "user") := by
  unfold tokenTypeOf at h
  split at h
  next text =>
    split at h
    next h_type =>
      obtain rfl := Except.ok.inj h
      exact ⟨rfl, by simpa using h_type⟩
    next => exact absurd h (by simp)
  all_goals exact absurd h (by simp)

/-- The check of the type lets an exception through exactly for what cannot be hashed. -/
theorem tokenTypeOf_error {e : AuthError} (h : tokenTypeOf value = .error e) :
    (e = .http ⟨401, "invalid token type"⟩ ∧ ∀ v ∈ value, unhashable v = false) ∨
      ((∃ message, e = .typeError message) ∧ ∃ v ∈ value, unhashable v = true) := by
  unfold tokenTypeOf at h
  split at h
  next text =>
    split at h
    next => exact absurd h (by simp)
    next => exact .inl ⟨(Except.error.inj h).symm, by simp [unhashable]⟩
  -- a list or a dictionary cannot be looked up in a set
  next items => exact .inr ⟨⟨_, (Except.error.inj h).symm⟩, _, rfl, rfl⟩
  next fields => exact .inr ⟨⟨_, (Except.error.inj h).symm⟩, _, rfl, rfl⟩
  next h_str h_arr h_obj =>
    refine .inl ⟨(Except.error.inj h).symm, fun v hv => ?_⟩
    cases v with
    | arr items => exact absurd hv (h_arr items)
    | obj fields => exact absurd hv (h_obj fields)
    | _ => rfl

theorem scopeOf_some {item : Json} {scope : String} (h : scopeOf item = some scope) :
    1 ≤ scope.length ∧ scope.length ≤ 128 := by
  unfold scopeOf at h
  split at h
  next text =>
    split at h
    next => exact absurd h (by simp)
    next h_valid =>
      obtain rfl := Option.some.inj h
      rw [not_or, not_lt] at h_valid
      exact ⟨one_le_length_iff.mpr h_valid.1, h_valid.2⟩
  next => exact absurd h (by simp)

/-- Every scope comes from an item. -/
theorem scopes_of_mapM {items : List Json} {scopes : List String}
    (h : items.mapM scopeOf = some scopes) :
    scopes.length = items.length ∧ ∀ scope ∈ scopes, ∃ item, scopeOf item = some scope := by
  induction items generalizing scopes with
  | nil =>
    obtain rfl := Option.some.inj h
    exact ⟨rfl, fun scope h_mem => absurd h_mem List.not_mem_nil⟩
  | cons item items ih =>
    rw [List.mapM_cons] at h
    obtain ⟨scope, h_item, h⟩ := Option.bind_eq_some_iff.mp h
    obtain ⟨rest, h_rest, h⟩ := Option.bind_eq_some_iff.mp h
    obtain rfl := Option.some.inj h
    obtain ⟨h_count, h_scopes⟩ := ih h_rest
    refine ⟨congrArg (· + 1) h_count, ?_⟩
    rw [List.forall_mem_cons]
    exact ⟨⟨item, h_item⟩, h_scopes⟩

theorem scopesOf_ok {scopes : List String} (h : scopesOf value = .ok scopes) :
    scopes.length ≤ 32 ∧ ∀ scope ∈ scopes, 1 ≤ scope.length ∧ scope.length ≤ 128 := by
  unfold scopesOf at h
  split at h
  next =>
    -- no scopes in the token
    obtain rfl := Except.ok.inj h
    exact ⟨Nat.zero_le _, fun scope h_mem => absurd h_mem List.not_mem_nil⟩
  next items =>
    split at h
    next => exact absurd h (by simp)
    next h_length =>
      split at h
      next texts h_texts =>
        obtain rfl := Except.ok.inj h
        obtain ⟨h_count, h_scopes⟩ := scopes_of_mapM h_texts
        -- the list is as long as its texts, and every text has passed `scopeOf`
        refine ⟨h_count ▸ Nat.not_lt.mp h_length, fun scope h_scope => ?_⟩
        obtain ⟨item, h_item⟩ := h_scopes scope h_scope
        exact scopeOf_some h_item
      next => exact absurd h (by simp)
  next => exact absurd h (by simp)

theorem scopesOf_error {e : AuthError} (h : scopesOf value = .error e) :
    e = .http ⟨401, "invalid scopes"⟩ := by
  unfold scopesOf at h
  split at h
  next => exact absurd h (by simp)
  next items =>
    split at h
    next => exact (Except.error.inj h).symm
    next =>
      split at h
      next => exact absurd h (by simp)
      next => exact (Except.error.inj h).symm
  next => exact (Except.error.inj h).symm

end Checks

/-- The type of the claims can be hashed, or is not looked at. -/
def TypeHashable (payload : Claims) : Prop :=
  ∀ subject, payload.lookup "sub" = some (.str subject) → ValidSubject subject →
    ∀ value, payload.lookup "type" = some value → unhashable value = false

theorem subjectOf_str {subject : String} (h : ValidSubject subject) :
    subjectOf (some (.str subject)) = .ok subject := by
  rw [subjectOf, if_neg]
  rw [not_or, not_lt]
  exact ⟨one_le_length_iff.mp h.1, h.2⟩

theorem principalFromPayload_answered_iff (payload : Claims) :
    Answered (principalFromPayload payload) ↔ TypeHashable payload := by
  unfold principalFromPayload
  cases h_sub : subjectOf (payload.lookup "sub") with
  | error e =>
    -- a token without a subject is refused, whatever its type is
    obtain rfl := subjectOf_error h_sub
    refine iff_of_true rfl fun subject h_subject h_valid => ?_
    rw [h_subject, subjectOf_str h_valid] at h_sub
    exact absurd h_sub (by simp)
  | ok subject =>
    obtain ⟨h_subject, h_valid⟩ := subjectOf_ok h_sub
    cases h_type : tokenTypeOf (payload.lookup "type") with
    | error e =>
      obtain ⟨rfl, h_hashable⟩ | ⟨⟨message, rfl⟩, value, h_value, h_un⟩ := tokenTypeOf_error h_type
      · -- a value that can be looked up and is no token type: refused with the message of the code
        exact iff_of_true rfl fun _ _ _ value h_value => h_hashable value h_value
      · -- looking up the type raises `TypeError`, which `decode_bearer_token` does not catch
        refine iff_of_false id fun h => ?_
        exact absurd h_un (by rw [h subject h_subject h_valid value h_value]; simp)
    | ok tokenType =>
      obtain ⟨h_str, h_tokenType⟩ := tokenTypeOf_ok h_type
      -- only a text is a token type, and texts are hashable
      have h_hashable : TypeHashable payload := by
        intro _ _ _ value h_value
        obtain rfl := Option.some.inj (h_str.symm.trans h_value)
        rfl
      cases h_scopes : scopesOf (payload.lookup "scopes") with
      | error e =>
        obtain rfl := scopesOf_error h_scopes
        exact iff_of_true rfl h_hashable
      | ok scopes =>
        obtain ⟨h_count, h_each⟩ := scopesOf_ok h_scopes
        -- the principal has the scopes without repetitions
        refine iff_of_true ⟨h_valid, h_tokenType, ?_, fun scope h_scope => ?_⟩ h_hashable
        · exact (List.dedup_sublist scopes).length_le.trans h_count
        · exact h_each scope (List.mem_dedup.mp h_scope)

/-- **A token is answered with a principal or with 401**, unless its subject is accepted and its
type is a list or an object. -/
theorem decodeBearerToken_answered_iff (jwtDecode : String → Option Claims)
    (credentials : Option String) :
    Answered (decodeBearerToken jwtDecode credentials) ↔
      ∀ token, credentials = some token → ∀ payload, jwtDecode token = some payload →
        TypeHashable payload := by
  cases credentials with
  | none => exact iff_of_true rfl fun token h_token => absurd h_token (by simp)
  | some token =>
    rw [decodeBearerToken]
    cases h_decode : jwtDecode token with
    | none =>
      -- a token that cannot be decoded is refused
      refine iff_of_true rfl fun token' h_token payload h_payload => ?_
      obtain rfl := Option.some.inj h_token
      exact absurd (h_decode.symm.trans h_payload) (by simp)
    | some payload =>
      -- otherwise its claims decide
      dsimp only
      rw [principalFromPayload_answered_iff]
      constructor
      · intro h token' h_token payload' h_payload
        obtain rfl := Option.some.inj h_token
        obtain rfl := Option.some.inj (h_decode.symm.trans h_payload)
        exact h
      · exact fun h => h token rfl payload h_decode

/-- The claims of a token whose type is a list. -/
def listTypeClaims : Claims :=
  [("sub", .str "billing"), ("type", .arr []), ("exp", .int 1782518400), ("iat", .int 1782514800),
    ("iss", .str "notification-center"), ("aud", .str "notification-api")]

/-- A type that is a list is answered with neither. -/
theorem listTypeClaims_not_answered :
    decodeBearerToken (fun _ => some listTypeClaims) (some "token") =
        .error (.typeError "cannot use 'list' as a set element (unhashable type: 'list')") ∧
      ¬ Answered (decodeBearerToken (fun _ => some listTypeClaims) (some "token")) := by
  have h_raises : decodeBearerToken (fun _ => some listTypeClaims) (some "token") =
      .error (.typeError "cannot use 'list' as a set element (unhashable type: 'list')") := by rfl
  exact ⟨h_raises, h_raises ▸ id⟩

end NotificationBroker
