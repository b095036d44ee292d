import NotificationBroker.Domain.ValueObjects
import NotificationBroker.Python.Json

/-!
# The schema of creation requests

`AudienceSelector` and `CreateNotificationRequest`, as the API accepts them: the
constraints of the fields, which pydantic checks, and the validators the schema adds.
What they check together is a field of the structures, so that a request that has been
refused cannot be built. `validate` reads one from the JSON value of a body.

The schema and the value objects of the domain are written separately and check the same
things in different words; `CreateNotificationRequest.toDomain` builds the one from the
other.
-/

namespace NotificationBroker

open Python

/-- An entry of the report on a refused body: where, and what a validator of the schema
says or which of its own checks pydantic names. Of several entries the model has one. -/
structure ValidationError where
  loc : List String
  message : String
deriving DecidableEq

/-- A validator of the schema, for the field at `loc`. -/
def validator (loc : List String) (result : Except String Unit) : Except ValidationError Unit :=
  result.mapError fun message => ⟨loc, message⟩

/-- A check of pydantic's own, for the field at `loc`. -/
def constraint (loc : List String) (type : String) (holds : Bool) : Except ValidationError Unit :=
  if holds then .ok () else .error ⟨loc, type⟩

/-! ### Fields of a body -/

/-- A field that has to be there. -/
def requiredField {α : Type} (data : Json) (key : String)
    (parse : Json → Except ValidationError α) : Except ValidationError α :=
  match data.get? key with
  | some v => parse v
  | none => .error ⟨[key], "missing"⟩

/-- A field that may be absent or null. -/
def optionalField {α : Type} (data : Json) (key : String)
    (parse : Json → Except ValidationError α) : Except ValidationError (Option α) :=
  match data.get? key with
  | none => .ok none
  | some .null => .ok none
  | some v => (parse v).map some

/-- `StrictStr`. -/
def strictStr (loc : List String) : Json → Except ValidationError String
  | .str text => .ok text
  | _ => .error ⟨loc, "string_type"⟩

/-- `extra="forbid"`. -/
def forbidExtra (keys : List String) : Json → Except ValidationError Unit
  | .obj fields => fields.forM fun field =>
      constraint [field.1] "extra_forbidden" (decide (field.1 ∈ keys))
  | _ => .error ⟨[], "model_attributes_type"⟩

/-! ### Audiences -/

/-- `dict[str, str]`. -/
abbrev StrDict := {items : List (String × String) // (items.map Prod.fst).Nodup}

namespace AudienceSelector

/-- `reject_non_exact_selector_shape`. -/
def rejectNonExactSelectorShape : Json → Except String Unit
  | .obj fields =>
    let isType (name : String) : Bool :=
      match fields.lookup "type" with
      | some (.str selectorType) => selectorType = name
      | _ => false
    let keysAre (keys : List String) : Bool :=
      fields.all (fun field => decide (field.1 ∈ keys)) &&
        keys.all fun key => decide (key ∈ fields.map Prod.fst)
    if isType "all" ∧ ¬ keysAre ["type"] then .error "all audience accepts only type"
    else if isType "group" ∧ ¬ keysAre ["type", "group"] then
      .error "group audience requires exactly type and group"
    else if isType "labels" ∧ ¬ keysAre ["type", "labels"] then
      .error "labels audience requires exactly type and labels"
    else .ok ()
  -- what is not an object is left to the fields' checks
  | _ => .ok ()

/-- `reject_invalid_group`. -/
def rejectInvalidGroup (value : String) : Except String Unit :=
  if value.toList = [] ∨ value.toList ≠ strip value.toList then
    .error "group must be exact and non-empty"
  else .ok ()

/-- The body of the loop of `reject_invalid_labels`. -/
def rejectInvalidLabel (label : String × String) : Except String Unit :=
  if label.1.toList = [] ∨ label.2.toList = [] then
    .error "label keys and values must not be empty"
  else if label.1.toList ≠ strip label.1.toList ∨ label.2.toList ≠ strip label.2.toList then
    .error "label keys and values must be exact"
  else .ok ()

/-- `reject_invalid_labels`. -/
def rejectInvalidLabels (value : List (String × String)) : Except String Unit := do
  value.forM rejectInvalidLabel
  if value = [] then .error "labels must not be empty" else .ok ()

/-- `validate_shape_for_type`. -/
def validateShapeForType (type : String) (group : Option String) (labels : Option StrDict) :
    Except String Unit :=
  if type = "all" then
    if group.isSome ∨ labels.isSome then .error "all audience must not include group or labels"
    else .ok ()
  else if type = "group" then
    if group.isNone ∨ labels.isSome then .error "group audience requires group and no labels"
    else .ok ()
  else if labels.isNone ∨ group.isSome then .error "labels audience requires labels and no group"
  else .ok ()

/-- The checks of the field `group`. -/
def checkGroup : Option String → Except ValidationError Unit
  | none => .ok ()
  | some value => do
    constraint ["group"] "string_too_long" (decide (value.length ≤ 128))
    validator ["group"] (rejectInvalidGroup value)

/-- The checks of the field `labels`. -/
def checkLabels : Option StrDict → Except ValidationError Unit
  | none => .ok ()
  | some value => do
    value.val.forM fun label => do
      constraint ["labels", label.1, "[key]"] "string_too_long" (decide (label.1.length ≤ 64))
      constraint ["labels", label.1] "string_too_long" (decide (label.2.length ≤ 256))
    constraint ["labels"] "too_long" (decide (value.val.length ≤ 20))
    validator ["labels"] (rejectInvalidLabels value.val)

/-- What the schema checks of a selector, once its fields have their types. -/
def check (type : String) (group : Option String) (labels : Option StrDict) :
    Except ValidationError Unit := do
  constraint ["type"] "literal_error" (decide (type ∈ ["all", "group", "labels"]))
  checkGroup group
  checkLabels labels
  validator [] (validateShapeForType type group labels)

end AudienceSelector

/-- A selector the schema accepts. -/
structure AudienceSelector where
  type : String
  group : Option String
  labels : Option StrDict
  valid : AudienceSelector.check type group labels = .ok ()

namespace AudienceSelector

/-- The value of the field `labels`. -/
def parseLabels : Json → Except ValidationError StrDict
  | .obj fields => do
    let items ← fields.mapM fun field => do
      return (field.1, ← strictStr ["labels", field.1] field.2)
    -- the keys of a Python dictionary are distinct
    if h : (items.map Prod.fst).Nodup then .ok ⟨items, h⟩
    else .error ⟨["labels"], "dict_type"⟩
  | _ => .error ⟨["labels"], "dict_type"⟩

/-- `AudienceSelector.model_validate(data)`. -/
def validate (data : Json) : Except ValidationError AudienceSelector := do
  validator [] (rejectNonExactSelectorShape data)
  let type ← requiredField data "type" (strictStr ["type"])
  let group ← optionalField data "group" (strictStr ["group"])
  let labels ← optionalField data "labels" parseLabels
  forbidExtra ["type", "group", "labels"] data
  match h : check type group labels with
  | .ok () => .ok ⟨type, group, labels, h⟩
  | .error e => .error e

end AudienceSelector

/-! ### Requests -/

namespace CreateNotificationRequest

/-- `reject_invalid_message`. -/
def rejectInvalidMessage (value : String) : Except String Unit :=
  if value.toList ≠ strip value.toList then .error "message must be exact" else .ok ()

/-- `reject_duplicate_channels`. -/
def rejectDuplicateChannels (value : List Channel) : Except String Unit :=
  if ¬ value.Nodup then .error "channels must not contain duplicates" else .ok ()

/-- The characters of `^[A-Za-z0-9._:-]+$`. -/
def isKeyChar (c : Char) : Bool :=
  ('A' ≤ c && c ≤ 'Z') || ('a' ≤ c && c ≤ 'z') || ('0' ≤ c && c ≤ '9') || c == '.' || c == '_' ||
    c == ':' || c == '-'

/-- The checks of the field `idempotency_key`. -/
def checkIdempotencyKey : Option String → Except ValidationError Unit
  | none => .ok ()
  | some key => do
    constraint ["idempotency_key"] "string_too_short" (decide (1 ≤ key.length))
    constraint ["idempotency_key"] "string_too_long" (decide (key.length ≤ 128))
    constraint ["idempotency_key"] "string_pattern_mismatch" (key.toList.all isKeyChar)

/-- What the schema checks of a request, once its fields have their types. -/
def check (message : String) (channels : List Channel) (idempotencyKey : Option String) :
    Except ValidationError Unit := do
  constraint ["message"] "string_too_short" (decide (1 ≤ message.length))
  constraint ["message"] "string_too_long" (decide (message.length ≤ 2000))
  validator ["message"] (rejectInvalidMessage message)
  constraint ["channels"] "too_short" (decide (1 ≤ channels.length))
  validator ["channels"] (rejectDuplicateChannels channels)
  checkIdempotencyKey idempotencyKey

end CreateNotificationRequest

/-- A request the schema accepts. -/
structure CreateNotificationRequest where
  message : String
  severity : Severity
  audience : AudienceSelector
  channels : List Channel
  idempotencyKey : Option String
  valid : CreateNotificationRequest.check message channels idempotencyKey = .ok ()

namespace CreateNotificationRequest

/-- The value of the field `severity`. -/
def parseSeverity : Json → Except ValidationError Severity
  | .str text => (Severity.ofValue? text).elim (.error ⟨["severity"], "enum"⟩) .ok
  | _ => .error ⟨["severity"], "enum"⟩

/-- An item of the field `channels`. -/
def parseChannel : Json → Except ValidationError Channel
  | .str text => (Channel.ofValue? text).elim (.error ⟨["channels"], "enum"⟩) .ok
  | _ => .error ⟨["channels"], "enum"⟩

/-- The value of the field `channels`. -/
def parseChannels : Json → Except ValidationError (List Channel)
  | .arr items => items.mapM parseChannel
  | _ => .error ⟨["channels"], "tuple_type"⟩

/-- The value of the field `audience`. -/
def parseAudience (data : Json) : Except ValidationError AudienceSelector :=
  (AudienceSelector.validate data).mapError fun e => { e with loc := "audience" :: e.loc }

/-- `CreateNotificationRequest.model_validate(data)`. -/
def validate (data : Json) : Except ValidationError CreateNotificationRequest := do
  let message ← requiredField data "message" (strictStr ["message"])
  let severity ← requiredField data "severity" parseSeverity
  let audience ← requiredField data "audience" parseAudience
  let channels ← requiredField data "channels" parseChannels
  let idempotencyKey ← optionalField data "idempotency_key" (strictStr ["idempotency_key"])
  forbidExtra ["message", "severity", "audience", "channels", "idempotency_key"] data
  match h : check message channels idempotencyKey with
  | .ok () => .ok ⟨message, severity, audience, channels, idempotencyKey, h⟩
  | .error e => .error e

/-- `to_domain`. -/
def toDomain (request : CreateNotificationRequest) : Except PyError NotificationCreationInput := do
  let type ← match AudienceType.ofValue? request.audience.type with
    | some type => .ok type
    | none => .error (.valueError ("'" ++ request.audience.type ++ "' is not a valid AudienceType"))
  let audience ← AudienceSelection.make type request.audience.group
    (request.audience.labels.map Subtype.val)
  NotificationCreationInput.make request.message request.severity audience request.channels

end CreateNotificationRequest

end NotificationBroker
