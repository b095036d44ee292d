import NotificationBroker.Domain.Enums
import NotificationBroker.Domain.Errors
import NotificationBroker.Python.Text

/-!
# Value objects

The two frozen dataclasses that validate themselves. What `__post_init__` checks
is a field of the structure, so that an invalid value cannot be built; `make` is
the constructor call, which raises what the check raises.
-/

namespace NotificationBroker

open Python

/-! ### The field checks -/

/-- `_validate_exact_non_empty`. -/
def validateExactNonEmpty (value fieldName : String) : Except PyError Unit :=
  if value.toList = [] ∨ value.toList ≠ strip value.toList then
    .error (.valueError (fieldName ++ " must be exact and non-empty"))
  else .ok ()

/-- The loop of `_validate_labels`; `seen` are the keys met so far. -/
def validateLabelItems (seen : List String) : List (String × String) → Except PyError Unit
  | [] => .ok ()
  | (key, value) :: rest => do
    validateExactNonEmpty key "label key"
    validateExactNonEmpty value "label value"
    if key ∈ seen then .error (.valueError "duplicate label keys are not allowed")
    else validateLabelItems (key :: seen) rest

/-- `_validate_labels`. -/
def validateLabels (labels : List (String × String)) : Except PyError Unit :=
  if labels = [] then .error (.valueError "labels must not be empty")
  else validateLabelItems [] labels

theorem validateLabelItems_nodup {seen : List String} {labels : List (String × String)}
    (h : validateLabelItems seen labels = .ok ()) :
    (labels.map Prod.fst).Nodup ∧ ∀ key ∈ seen, key ∉ labels.map Prod.fst := by
  induction labels generalizing seen with
  | nil => exact ⟨List.nodup_nil, fun _ _ => List.not_mem_nil⟩
  | cons label rest ih =>
    obtain ⟨key, value⟩ := label
    simp only [validateLabelItems] at h
    cases h_key : validateExactNonEmpty key "label key" with
    | error e => rw [h_key] at h; exact absurd h (by simp [bind, Except.bind])
    | ok _ =>
      cases h_value : validateExactNonEmpty value "label value" with
      | error e => rw [h_key, h_value] at h; exact absurd h (by simp [bind, Except.bind])
      | ok _ =>
        rw [h_key, h_value] at h
        -- the keys seen so far are carried along: a key of the rest is none of them
        by_cases h_seen : key ∈ seen
        · simp [bind, Except.bind, h_seen] at h
        · simp only [bind, Except.bind, h_seen, if_false] at h
          obtain ⟨h_nodup, h_rest⟩ := ih h
          refine ⟨List.nodup_cons.mpr ⟨h_rest key List.mem_cons_self, h_nodup⟩, ?_⟩
          intro other h_other h_mem
          rcases List.mem_cons.mp h_mem with rfl | h_mem
          · exact h_seen h_other
          · exact h_rest other (List.mem_cons_of_mem key h_other) h_mem

/-- Accepted labels are not empty and have distinct keys. -/
theorem validateLabels_ok {labels : List (String × String)} (h : validateLabels labels = .ok ()) :
    labels ≠ [] ∧ (labels.map Prod.fst).Nodup := by
  unfold validateLabels at h
  split at h
  · exact absurd h (by simp)
  next h_empty => exact ⟨h_empty, (validateLabelItems_nodup h).1⟩

/-! ### Audiences -/

/-- `AudienceSelection.__post_init__`. -/
def AudienceSelection.postInit (type : AudienceType) (group : Option String)
    (labels : Option (List (String × String))) : Except PyError Unit :=
  match type with
  | .all =>
    if group.isSome ∨ labels.isSome then
      .error (.valueError "all audience must not include group or labels")
    else .ok ()
  | .group =>
    match group, labels with
    | some name, none => validateExactNonEmpty name "group"
    | _, _ => .error (.valueError "group audience requires group and no labels")
  | .labels =>
    match labels, group with
    | some items, none => validateLabels items
    | _, _ => .error (.valueError "labels audience requires labels and no group")

/-- Whom a notification is for. -/
structure AudienceSelection where
  type : AudienceType
  group : Option String
  labels : Option (List (String × String))
  valid : AudienceSelection.postInit type group labels = .ok ()

/-- What an audience looks like by its validity. -/
inductive AudienceSelection.Shape (audience : AudienceSelection) : Prop
  | all (h_type : audience.type = .all) (h_group : audience.group = none)
      (h_labels : audience.labels = none)
  | group (name : String) (h_type : audience.type = .group) (h_group : audience.group = some name)
      (h_labels : audience.labels = none)
  | labels (items : List (String × String)) (h_type : audience.type = .labels)
      (h_group : audience.group = none) (h_labels : audience.labels = some items)
      (h_ne : items ≠ []) (h_nodup : (items.map Prod.fst).Nodup)

theorem AudienceSelection.shape (audience : AudienceSelection) : audience.Shape := by
  obtain ⟨type, group, labels, h_valid⟩ := audience
  cases type with
  | all =>
    cases group with
    | some name => exact absurd h_valid (by simp [postInit])
    | none =>
      cases labels with
      | some items => exact absurd h_valid (by simp [postInit])
      | none => exact .all rfl rfl rfl
  | group =>
    cases group with
    | none => exact absurd h_valid (by simp [postInit])
    | some name =>
      cases labels with
      | some items => exact absurd h_valid (by simp [postInit])
      | none => exact .group name rfl rfl rfl
  | labels =>
    cases labels with
    | none => exact absurd h_valid (by simp [postInit])
    | some items =>
      cases group with
      | some name => exact absurd h_valid (by simp [postInit])
      | none =>
        -- only labels are checked further, by their keys
        obtain ⟨h_ne, h_nodup⟩ := validateLabels_ok h_valid
        exact .labels items rfl rfl rfl h_ne h_nodup

/-- `AudienceSelection(type=…, group=…, labels=…)`. -/
def AudienceSelection.make (type : AudienceType) (group : Option String)
    (labels : Option (List (String × String))) : Except PyError AudienceSelection :=
  match h : AudienceSelection.postInit type group labels with
  | .ok () => .ok ⟨type, group, labels, h⟩
  | .error e => .error e

/-! The checks raise nothing but `ValueError`. -/

theorem validateExactNonEmpty_error {value fieldName : String} {e : PyError}
    (h : validateExactNonEmpty value fieldName = .error e) :
    ∃ message, e = .valueError message := by
  unfold validateExactNonEmpty at h
  split at h
  · exact ⟨_, (Except.error.inj h).symm⟩
  · exact absurd h (by simp)

theorem validateLabelItems_error {seen : List String} {labels : List (String × String)}
    {e : PyError} (h : validateLabelItems seen labels = .error e) :
    ∃ message, e = .valueError message := by
  induction labels generalizing seen with
  | nil => exact absurd h (by simp [validateLabelItems])
  | cons label rest ih =>
    -- the first label that is refused decides: its key, its value, or a key seen before
    obtain ⟨key, value⟩ := label
    simp only [validateLabelItems] at h
    cases h_key : validateExactNonEmpty key "label key" with
    | error e' =>
      rw [h_key] at h
      obtain rfl := Except.error.inj h
      exact validateExactNonEmpty_error h_key
    | ok _ =>
      cases h_value : validateExactNonEmpty value "label value" with
      | error e' =>
        rw [h_key, h_value] at h
        obtain rfl := Except.error.inj h
        exact validateExactNonEmpty_error h_value
      | ok _ =>
        rw [h_key, h_value] at h
        by_cases h_seen : key ∈ seen
        · simp only [bind, Except.bind, h_seen, if_true, Except.error.injEq] at h
          exact ⟨_, h.symm⟩
        · simp only [bind, Except.bind, h_seen, if_false] at h
          exact ih h

theorem AudienceSelection.postInit_error {type : AudienceType} {group : Option String}
    {labels : Option (List (String × String))} {e : PyError}
    (h : AudienceSelection.postInit type group labels = .error e) :
    ∃ message, e = .valueError message := by
  unfold AudienceSelection.postInit at h
  cases type with
  | all =>
    dsimp only at h
    -- group and labels have to be absent
    split at h
    · exact ⟨_, (Except.error.inj h).symm⟩
    · exact absurd h (by simp)
  | group =>
    dsimp only at h
    -- a group is required, and has to be exact
    split at h
    · exact validateExactNonEmpty_error h
    · exact ⟨_, (Except.error.inj h).symm⟩
  | labels =>
    dsimp only at h
    split at h
    · unfold validateLabels at h
      split at h
      · exact ⟨_, (Except.error.inj h).symm⟩
      · exact validateLabelItems_error h
    · exact ⟨_, (Except.error.inj h).symm⟩

theorem AudienceSelection.make_error {type : AudienceType} {group : Option String}
    {labels : Option (List (String × String))} {e : PyError}
    (h : AudienceSelection.make type group labels = .error e) :
    ∃ message, e = .valueError message := by
  unfold AudienceSelection.make at h
  split at h
  · exact absurd h (by simp)
  next h_check =>
    obtain rfl := Except.error.inj h
    exact postInit_error h_check

/-! ### Requests -/

/-- `NotificationCreationInput.__post_init__`. -/
def NotificationCreationInput.postInit (message : String) (channels : List Channel) :
    Except PyError Unit := do
  validateExactNonEmpty message "message"
  if channels = [] then .error (.valueError "channels must not be empty")
  else if ¬ channels.Nodup then .error (.valueError "channels must not contain duplicates")
  else .ok ()

/-- What a producer asks to be sent. -/
structure NotificationCreationInput where
  message : String
  severity : Severity
  audience : AudienceSelection
  channels : List Channel
  valid : NotificationCreationInput.postInit message channels = .ok ()

/-- `NotificationCreationInput(message=…, severity=…, audience=…, channels=…)`. -/
def NotificationCreationInput.make (message : String) (severity : Severity)
    (audience : AudienceSelection) (channels : List Channel) :
    Except PyError NotificationCreationInput :=
  match h : NotificationCreationInput.postInit message channels with
  | .ok () => .ok ⟨message, severity, audience, channels, h⟩
  | .error e => .error e

theorem NotificationCreationInput.channels_nodup (request : NotificationCreationInput) :
    request.channels.Nodup := by
  have h := request.valid
  unfold NotificationCreationInput.postInit at h
  cases h_message : validateExactNonEmpty request.message "message" with
  | error e => rw [h_message] at h; exact absurd h (by simp [bind, Except.bind])
  | ok _ =>
    rw [h_message] at h
    by_contra h_dup
    by_cases h_empty : request.channels = [] <;> simp [bind, Except.bind, h_empty, h_dup] at h

end NotificationBroker
