import Mathlib.Data.List.Dedup
import NotificationBroker.Python.Json

/-!
# Principals

Who calls an endpoint, once the bearer token has been read, and the answers that refuse a
call. A principal's checks come before anything else an endpoint does.

`jwt.decode` is the parameter `jwtDecode`: the claims of a token, or none if it raises a
`PyJWTError`.
-/

namespace NotificationBroker

open Python

/-- An error answer. -/
structure HTTPException where
  statusCode : ℕ
  detail : String
deriving DecidableEq

structure AuthenticatedPrincipal where
  subject : String
  tokenType : String
  scopes : List String
deriving DecidableEq

namespace AuthenticatedPrincipal

variable (principal : AuthenticatedPrincipal)

/-- `require_type`. -/
def requireType (tokenType : String) : Except HTTPException Unit :=
  if principal.tokenType = tokenType then .ok ()
  else .error ⟨403, "token type is not allowed"⟩

/-- `require_scope`. -/
def requireScope (scope : String) : Except HTTPException Unit :=
  if scope ∈ principal.scopes then .ok () else .error ⟨403, "required scope is missing"⟩

end AuthenticatedPrincipal

/-! ### Bearer tokens -/

/-- How reading a token fails: with an error answer, or with a `TypeError` that nothing catches. -/
inductive AuthError
  | http (e : HTTPException)
  | typeError (message : String)
deriving DecidableEq

/-- The claims of a token. -/
abbrev Claims := List (String × Json)

/-- The check of `sub`. -/
def subjectOf : Option Json → Except AuthError String
  | some (.str subject) =>
    if subject = "" ∨ 256 < subject.length then .error (.http ⟨401, "invalid subject"⟩)
    else .ok subject
  | _ => .error (.http ⟨401, "invalid subject"⟩)

/-- The check of `type`: a value is hashed before it is looked up in a set, and a list or a
dictionary cannot be. -/
def tokenTypeOf : Option Json → Except AuthError String
  | some (.str tokenType) =>
    if tokenType ∈ ["service", "user"] then .ok tokenType
    else .error (.http ⟨401, "invalid token type"⟩)
  | some (.arr _) =>
    .error (.typeError "cannot use 'list' as a set element (unhashable type: 'list')")
  | some (.obj _) =>
    .error (.typeError "cannot use 'dict' as a set element (unhashable type: 'dict')")
  | _ => .error (.http ⟨401, "invalid token type"⟩)

/-- A scope, unless it is refused. -/
def scopeOf : Json → Option String
  | .str scope => if scope = "" ∨ 128 < scope.length then none else some scope
  | _ => none

/-- The check of `scopes`, which need not be there. -/
def scopesOf : Option Json → Except AuthError (List String)
  | none => .ok []
  | some (.arr items) =>
    -- the number of scopes, and then each of them
    if 32 < items.length then .error (.http ⟨401, "invalid scopes"⟩)
    else
      match items.mapM scopeOf with
      | some scopes => .ok scopes
      | none => .error (.http ⟨401, "invalid scopes"⟩)
  | some _ => .error (.http ⟨401, "invalid scopes"⟩)

/-- `_principal_from_payload`. The scopes are a `frozenset`. -/
def principalFromPayload (payload : Claims) : Except AuthError AuthenticatedPrincipal := do
  let subject ← subjectOf (payload.lookup "sub")
  let tokenType ← tokenTypeOf (payload.lookup "type")
  let scopes ← scopesOf (payload.lookup "scopes")
  return ⟨subject, tokenType, scopes.dedup⟩

/-- `decode_bearer_token`. -/
def decodeBearerToken (jwtDecode : String → Option Claims) (credentials : Option String) :
    Except AuthError AuthenticatedPrincipal :=
  match credentials with
  | none => .error (.http ⟨401, "missing bearer token"⟩)
  | some token =>
    match jwtDecode token with
    -- any `PyJWTError`
    | none => .error (.http ⟨401, "invalid bearer token"⟩)
    | some payload => principalFromPayload payload

end NotificationBroker
