import Mathlib.Data.Set.List
import NotificationBroker.Api.NotificationRequests
import NotificationBroker.Framework.Raising
import NotificationBroker.Properties.RequestHashes
import NotificationBroker.Services.NotificationCreation
import NotificationBroker.Services.NotificationFanout

/-!
# Whom an accepted request reaches

The schema of the API, the value objects of the domain, the canonical form that is stored, its
reader in the fan-out and the queries of the directory are written separately.
`request_reaches_targets` follows an accepted request through all of them: no check fails, and
the users that are resolved are those that the request targets (`Directory.Targets`).

The query for labels counts distinct matching keys. That as many match as were asked for means
that all do, since a key is asked for once and a user has a key once (`labels_counted_iff`).
-/

namespace NotificationBroker

open Python

/-! ### Targets -/

namespace Directory

/-- The user is a member of the group of that name. -/
def InGroup (dir : Directory) (userId : UUID) (name : String) : Prop :=
  ∃ g ∈ dir.groups, g.name = name ∧ ⟨userId, g.id⟩ ∈ dir.userGroups

/-- The user has every label asked for, with the requested value. -/
def HasLabels (dir : Directory) (userId : UUID) (labels : List (String × String)) : Prop :=
  ∀ label ∈ labels, ⟨userId, label.1, label.2⟩ ∈ dir.userLabels

/-- The audience is meant for the user. -/
def Targets (dir : Directory) (audience : AudienceSelection) (userId : UUID) : Prop :=
  match audience.type with
  | .all => True
  | .group => ∃ name, audience.group = some name ∧ dir.InGroup userId name
  | .labels => ∃ labels, audience.labels = some labels ∧ dir.HasLabels userId labels

/-- The user is there and active. -/
def IsActive (dir : Directory) (userId : UUID) : Prop :=
  ∃ u ∈ dir.users, u.active = true ∧ u.id = userId

variable {dir : Directory} {userId : UUID}

theorem mem_orderById {ids : List UUID} : userId ∈ orderById ids ↔ userId ∈ ids :=
  (List.perm_insertionSort (· ≤ ·) ids).mem_iff

theorem mem_listActiveUserIds : userId ∈ dir.listActiveUserIds ↔ dir.IsActive userId := by
  unfold listActiveUserIds IsActive
  rw [mem_orderById]
  simp [and_assoc]

theorem mem_membershipsOf_iff {name : String} {user : User} :
    userId ∈ dir.membershipsOf name user ↔ userId = user.id ∧ dir.InGroup userId name := by
  constructor
  · intro h
    obtain rfl := mem_membershipsOf h
    refine ⟨rfl, ?_⟩
    -- the join: a membership of the user and the group it names
    obtain ⟨ug, h_ug, h_join⟩ := List.mem_flatMap.mp h
    obtain ⟨g, h_g, -⟩ := List.mem_map.mp h_join
    simp only [List.mem_filter, decide_eq_true_eq] at h_ug h_g
    obtain ⟨h_row, h_user⟩ := h_ug
    obtain ⟨h_group, h_id, h_name⟩ := h_g
    refine ⟨g, h_group, h_name, ?_⟩
    rw [h_id, ← h_user]
    exact h_row
  · rintro ⟨rfl, g, h_group, h_name, h_row⟩
    refine List.mem_flatMap.mpr ⟨⟨user.id, g.id⟩, ?_, List.mem_map.mpr ⟨g, ?_, rfl⟩⟩
    · exact List.mem_filter.mpr ⟨h_row, decide_eq_true rfl⟩
    · exact List.mem_filter.mpr ⟨h_group, decide_eq_true ⟨rfl, h_name⟩⟩

theorem mem_listActiveUserIdsByGroup {name : String} :
    userId ∈ dir.listActiveUserIdsByGroup name ↔ dir.IsActive userId ∧ dir.InGroup userId name := by
  unfold listActiveUserIdsByGroup IsActive
  rw [mem_orderById, List.mem_flatMap]
  constructor
  · rintro ⟨u, h_u, h_mem⟩
    obtain ⟨rfl, h_group⟩ := mem_membershipsOf_iff.mp h_mem
    exact ⟨⟨u, (List.mem_filter.mp h_u).1, (List.mem_filter.mp h_u).2, rfl⟩, h_group⟩
  · rintro ⟨⟨u, h_u, h_active, rfl⟩, h_group⟩
    exact ⟨u, List.mem_filter.mpr ⟨h_u, h_active⟩, mem_membershipsOf_iff.mpr ⟨rfl, h_group⟩⟩

/-- The matching labels of a user have distinct keys. -/
theorem matchingLabels_nodup (labels : List (String × String)) (user : User) :
    ((dir.matchingLabels labels user).map UserLabel.key).Nodup := by
  have h_rows := dir.userLabels_nodup.sublist
    ((dir.userLabels.filter_sublist (p := fun l => decide (l.userId = user.id ∧
      (l.key, l.value) ∈ labels))).map fun l => (l.userId, l.key))
  refine List.Nodup.of_map (fun key => (user.id, key)) ?_
  rw [List.map_map]
  refine (List.map_congr_left fun l h_l => ?_) ▸ h_rows
  have h_user := (of_decide_eq_true (List.mem_filter.mp h_l).2).1
  exact Prod.ext h_user rfl

/-- **As many distinct keys match as were asked for if and only if all labels do.** -/
theorem labels_counted_iff {labels : List (String × String)} (user : User)
    (h_nodup : (labels.map Prod.fst).Nodup) :
    ((dir.matchingLabels labels user).map UserLabel.key).dedup.length = labels.length ↔
      dir.HasLabels user.id labels := by
  have h_keys := @matchingLabels_nodup dir labels user
  rw [List.dedup_eq_self.mpr h_keys, List.length_map,
    ← List.length_map (fun l : UserLabel => (l.key, l.value))]
  -- the matching labels, as they were asked for
  have h_pairs : ((dir.matchingLabels labels user).map fun l => (l.key, l.value)).Nodup := by
    refine List.Nodup.of_map Prod.fst ?_
    rw [List.map_map]
    exact h_keys
  have h_mem : ∀ label, label ∈ (dir.matchingLabels labels user).map (fun l => (l.key, l.value)) ↔
      label ∈ labels ∧ ⟨user.id, label.1, label.2⟩ ∈ dir.userLabels := by
    intro label
    constructor
    · intro h
      obtain ⟨l, h_l, rfl⟩ := List.mem_map.mp h
      obtain ⟨h_row, h_match⟩ := List.mem_filter.mp h_l
      obtain ⟨h_user, h_label⟩ := of_decide_eq_true h_match
      exact ⟨h_label, h_user ▸ h_row⟩
    · rintro ⟨h_label, h_row⟩
      exact List.mem_map.mpr ⟨_, List.mem_filter.mpr ⟨h_row, decide_eq_true ⟨rfl, h_label⟩⟩, rfl⟩
  generalize (dir.matchingLabels labels user).map (fun l => (l.key, l.value)) = matching
    at h_pairs h_mem
  have h_matching : matching.Subperm labels :=
    List.subperm_of_subset h_pairs fun label h => ((h_mem label).mp h).1
  constructor
  · intro h_length label h_label
    have h_perm := h_matching.perm_of_length_le h_length.ge
    exact ((h_mem label).mp (h_perm.mem_iff.mpr h_label)).2
  · intro h_labels
    have h_all : labels.Subperm matching :=
      List.subperm_of_subset h_nodup.of_map fun label h => (h_mem label).mpr ⟨h, h_labels label h⟩
    exact Nat.le_antisymm h_matching.length_le h_all.length_le

theorem mem_listActiveUserIdsByLabels {labels : List (String × String)} (h_ne : labels ≠ [])
    (h_nodup : (labels.map Prod.fst).Nodup) :
    userId ∈ dir.listActiveUserIdsByLabels labels ↔
      dir.IsActive userId ∧ dir.HasLabels userId labels := by
  unfold listActiveUserIdsByLabels IsActive
  rw [if_neg h_ne, mem_orderById, List.mem_map]
  constructor
  · rintro ⟨u, h_u, rfl⟩
    obtain ⟨h_row, h_keep⟩ := List.mem_filter.mp h_u
    obtain ⟨h_active, -, h_count⟩ := of_decide_eq_true h_keep
    exact ⟨⟨u, h_row, h_active, rfl⟩, (labels_counted_iff u h_nodup).mp h_count⟩
  · rintro ⟨⟨u, h_row, h_active, rfl⟩, h_labels⟩
    have h_count := (labels_counted_iff u h_nodup).mpr h_labels
    -- with labels to match, a full count is a count above zero
    have h_some : dir.matchingLabels labels u ≠ [] := by
      intro h_nil
      rw [h_nil] at h_count
      exact h_ne (List.length_eq_zero_iff.mp h_count.symm)
    exact ⟨u, List.mem_filter.mpr ⟨h_row, decide_eq_true ⟨h_active, h_some, h_count⟩⟩, rfl⟩

/-- Identifiers in order, without repetitions. -/
theorem orderById_pairwise {ids : List UUID} (h : (orderById ids).Nodup) :
    (orderById ids).Pairwise (· < ·) := by
  have h_sorted : (orderById ids).Pairwise (· ≤ ·) := List.pairwise_insertionSort _ _
  exact h_sorted.imp₂ (fun _ _ h_le h_ne => lt_of_le_of_ne h_le h_ne) h

/-- **The resolved audience** is the active users that it targets, in the order of their
identifiers. -/
theorem resolve_targets (dir : Directory) (audience : AudienceSelection) :
    ∃ ids, dir.resolve audience = .ok ids ∧ ids.Pairwise (· < ·) ∧
      ∀ userId, userId ∈ ids ↔ dir.IsActive userId ∧ dir.Targets audience userId := by
  have h_pairwise : ∀ {ids}, dir.resolve audience = .ok (orderById ids) →
      (orderById ids).Pairwise (· < ·) := fun h => orderById_pairwise (resolve_nodup h)
  unfold Targets
  cases audience.shape with
  | all h_type h_group h_labels =>
    -- every active user is a target
    have h_resolve : dir.resolve audience = .ok dir.listActiveUserIds := by
      rw [resolve, h_type]
    refine ⟨_, h_resolve, h_pairwise h_resolve, fun userId => ?_⟩
    rw [h_type, mem_listActiveUserIds]
    exact (and_iff_left trivial).symm
  | group name h_type h_group h_labels =>
    -- the members of the group
    have h_resolve : dir.resolve audience = .ok (dir.listActiveUserIdsByGroup name) := by
      rw [resolve, h_type, h_group]
    refine ⟨_, h_resolve, h_pairwise h_resolve, fun userId => ?_⟩
    simp only [h_type, h_group, mem_listActiveUserIdsByGroup, Option.some.injEq, exists_eq_left']
  | labels items h_type h_group h_labels h_ne h_nodup =>
    -- the users that have all labels; the query is not made for an empty list
    have h_resolve : dir.resolve audience = .ok (dir.listActiveUserIdsByLabels items) := by
      rw [resolve, h_type, h_labels]
    refine ⟨_, h_resolve, ?_, fun userId => ?_⟩
    · have h_query := h_resolve
      rw [listActiveUserIdsByLabels, if_neg h_ne] at h_query ⊢
      exact h_pairwise h_query
    · simp only [h_type, h_labels, mem_listActiveUserIdsByLabels h_ne h_nodup, Option.some.injEq,
        exists_eq_left']

end Directory

/-! ### Accepted requests -/

theorem AudienceType.ofValue?_value (type : AudienceType) :
    AudienceType.ofValue? type.value = some type := by
  cases type <;> decide

/-- A check that holds. -/
theorem validateExactNonEmpty_ok {value fieldName : String} :
    validateExactNonEmpty value fieldName = .ok () ↔
      value.toList ≠ [] ∧ value.toList = strip value.toList := by
  unfold validateExactNonEmpty
  split
  next h =>
    refine ⟨fun h_ok => absurd h_ok (by simp), fun h_ok => ?_⟩
    rcases h with h_empty | h_blank
    · exact absurd h_empty h_ok.1
    · exact absurd h_ok.2 h_blank
  next h =>
    push Not at h
    exact ⟨fun _ => h, fun _ => rfl⟩

theorem constraint_ok {loc : List String} {type : String} {holds : Bool} :
    constraint loc type holds = .ok () ↔ holds = true := by
  unfold constraint
  cases holds <;> simp

theorem validator_ok {loc : List String} {result : Except String Unit} :
    validator loc result = .ok () ↔ result = .ok () := by
  unfold validator
  cases result <;> simp [Except.mapError]

/-- The loop goes through if all labels are exact and no key comes twice. -/
theorem validateLabelItems_ok {seen : List String} {labels : List (String × String)}
    (h_exact : ∀ label ∈ labels, (label.1.toList ≠ [] ∧ label.1.toList = strip label.1.toList) ∧
      label.2.toList ≠ [] ∧ label.2.toList = strip label.2.toList)
    (h_nodup : (labels.map Prod.fst).Nodup) (h_seen : ∀ key ∈ seen, key ∉ labels.map Prod.fst) :
    validateLabelItems seen labels = .ok () := by
  induction labels generalizing seen with
  | nil => rfl
  | cons label rest ih =>
    obtain ⟨key, value⟩ := label
    obtain ⟨h_key, h_value⟩ := h_exact _ List.mem_cons_self
    obtain ⟨h_not, h_rest⟩ := List.nodup_cons.mp h_nodup
    have h_new : key ∉ seen := fun h_mem => h_seen key h_mem List.mem_cons_self
    rw [validateLabelItems, validateExactNonEmpty_ok.mpr h_key,
      validateExactNonEmpty_ok.mpr h_value]
    change (if key ∈ seen then _ else _) = _
    rw [if_neg h_new]
    -- the keys seen so far grow by one that the rest does not have
    refine ih (fun other h_other => h_exact other (List.mem_cons_of_mem _ h_other)) h_rest ?_
    intro other h_other
    rcases List.mem_cons.mp h_other with rfl | h_other
    · exact h_not
    · exact fun h_mem => h_seen other h_other (List.mem_cons_of_mem _ h_mem)

namespace AudienceSelector

/-- Accepted labels are exact. -/
theorem rejectInvalidLabels_ok {labels : List (String × String)}
    (h : rejectInvalidLabels labels = .ok ()) :
    labels ≠ [] ∧ ∀ label ∈ labels,
      (label.1.toList ≠ [] ∧ label.1.toList = strip label.1.toList) ∧
        label.2.toList ≠ [] ∧ label.2.toList = strip label.2.toList := by
  obtain ⟨_, h_loop, h_ne⟩ := Raising.bind_eq_ok.mp h
  refine ⟨?_, fun label h_label => ?_⟩
  · rintro rfl
    exact absurd h_ne (by simp)
  · have h_turn := Raising.forM_eq_ok.mp h_loop label h_label
    unfold rejectInvalidLabel at h_turn
    split at h_turn
    · exact absurd h_turn (by simp)
    next h_empty =>
      split at h_turn
      · exact absurd h_turn (by simp)
      next h_space =>
        push Not at h_empty h_space
        exact ⟨⟨h_empty.1, h_space.1⟩, h_empty.2, h_space.2⟩

theorem rejectInvalidGroup_ok {name : String} (h : rejectInvalidGroup name = .ok ()) :
    name.toList ≠ [] ∧ name.toList = strip name.toList := by
  unfold rejectInvalidGroup at h
  split at h
  · exact absurd h (by simp)
  next h_exact =>
    push Not at h_exact
    exact h_exact

theorem checkGroup_ok {name : String} (h : checkGroup (some name) = .ok ()) :
    name.toList ≠ [] ∧ name.toList = strip name.toList := by
  obtain ⟨_, -, h_group⟩ := Raising.bind_eq_ok.mp h
  exact rejectInvalidGroup_ok (validator_ok.mp h_group)

theorem checkLabels_ok {labels : StrDict} (h : checkLabels (some labels) = .ok ()) :
    validateLabels labels.val = .ok () := by
  obtain ⟨_, -, h⟩ := Raising.bind_eq_ok.mp h
  obtain ⟨_, -, h⟩ := Raising.bind_eq_ok.mp h
  obtain ⟨h_ne, h_exact⟩ := rejectInvalidLabels_ok (validator_ok.mp h)
  rw [validateLabels, if_neg h_ne]
  exact validateLabelItems_ok h_exact labels.property fun _ h_seen => absurd h_seen List.not_mem_nil

/-- **An accepted selector** is an audience of the domain. -/
theorem postInit_ok (selector : AudienceSelector) :
    ∃ type, AudienceType.ofValue? selector.type = some type ∧
      AudienceSelection.postInit type selector.group (selector.labels.map Subtype.val) =
        .ok () := by
  obtain ⟨type, group, labels, h_valid⟩ := selector
  -- the field checks come first, then the check of the shape
  obtain ⟨_, h_type, h_valid⟩ := Raising.bind_eq_ok.mp h_valid
  obtain ⟨_, h_group, h_valid⟩ := Raising.bind_eq_ok.mp h_valid
  obtain ⟨_, h_labels, h_shape⟩ := Raising.bind_eq_ok.mp h_valid
  have h_member := of_decide_eq_true (constraint_ok.mp h_type)
  have h_shape := validator_ok.mp h_shape
  simp only [List.mem_cons, List.not_mem_nil, or_false] at h_member
  rcases h_member with rfl | rfl | rfl
  · refine ⟨.all, AudienceType.ofValue?_value .all, ?_⟩
    -- `all` admits neither a group nor labels
    cases group with
    | some name => exact absurd h_shape (by simp [validateShapeForType])
    | none =>
      cases labels with
      | some labels => exact absurd h_shape (by simp [validateShapeForType])
      | none => rfl
  · refine ⟨.group, AudienceType.ofValue?_value .group, ?_⟩
    -- `group` requires a group and no labels
    cases group with
    | none => exact absurd h_shape (by simp [validateShapeForType])
    | some name =>
      cases labels with
      | some labels => exact absurd h_shape (by simp [validateShapeForType])
      | none => exact validateExactNonEmpty_ok.mpr (checkGroup_ok h_group)
  · refine ⟨.labels, AudienceType.ofValue?_value .labels, ?_⟩
    -- `labels` requires labels and no group
    cases labels with
    | none => exact absurd h_shape (by simp [validateShapeForType])
    | some labels =>
      cases group with
      | some name => exact absurd h_shape (by simp [validateShapeForType])
      | none => exact checkLabels_ok h_labels

end AudienceSelector

theorem AudienceSelection.make_ok {type : AudienceType} {group : Option String}
    {labels : Option (List (String × String))}
    (h : AudienceSelection.postInit type group labels = .ok ()) :
    AudienceSelection.make type group labels = .ok ⟨type, group, labels, h⟩ := by
  unfold AudienceSelection.make
  split
  · rfl
  next e h_error => exact absurd (h.symm.trans h_error) (by simp)

/-- An accepted request passes the checks of the domain. -/
theorem CreateNotificationRequest.postInit_ok (request : CreateNotificationRequest) :
    NotificationCreationInput.postInit request.message request.channels = .ok () := by
  obtain ⟨_, h_short, h_valid⟩ := Raising.bind_eq_ok.mp request.valid
  obtain ⟨_, -, h_valid⟩ := Raising.bind_eq_ok.mp h_valid
  obtain ⟨_, h_message, h_valid⟩ := Raising.bind_eq_ok.mp h_valid
  obtain ⟨_, h_channels, h_valid⟩ := Raising.bind_eq_ok.mp h_valid
  obtain ⟨_, h_duplicates, -⟩ := Raising.bind_eq_ok.mp h_valid
  have h_length := of_decide_eq_true (constraint_ok.mp h_short)
  -- a text of at least one character that is not blank
  have h_exact : validateExactNonEmpty request.message "message" = .ok () := by
    have h_message := validator_ok.mp h_message
    unfold rejectInvalidMessage at h_message
    split at h_message
    · exact absurd h_message (by simp)
    next h_strip =>
      refine validateExactNonEmpty_ok.mpr ⟨fun h_nil => ?_, not_not.mp h_strip⟩
      rw [← String.length_toList, h_nil] at h_length
      exact absurd h_length (by decide)
  have h_ne : request.channels ≠ [] := by
    intro h_nil
    have h_length := of_decide_eq_true (constraint_ok.mp h_channels)
    rw [h_nil] at h_length
    exact absurd h_length (by decide)
  have h_nodup : ¬ ¬ request.channels.Nodup := by
    have h_duplicates := validator_ok.mp h_duplicates
    unfold rejectDuplicateChannels at h_duplicates
    split at h_duplicates
    · exact absurd h_duplicates (by simp)
    next h => exact h
  refine Raising.bind_eq_ok.mpr ⟨(), h_exact, ?_⟩
  rw [if_neg h_ne, if_neg h_nodup]

/-- **`to_domain` does not raise**, and keeps every field. -/
theorem CreateNotificationRequest.toDomain_ok (request : CreateNotificationRequest) :
    ∃ input, request.toDomain = .ok input ∧ input.message = request.message ∧
      input.severity = request.severity ∧ input.channels = request.channels ∧
      AudienceType.ofValue? request.audience.type = some input.audience.type ∧
      input.audience.group = request.audience.group ∧
      input.audience.labels = request.audience.labels.map Subtype.val := by
  obtain ⟨type, h_type, h_audience⟩ := request.audience.postInit_ok
  have h_input := request.postInit_ok
  refine ⟨⟨request.message, request.severity, ⟨type, request.audience.group,
    request.audience.labels.map Subtype.val, h_audience⟩, request.channels, h_input⟩,
    ?_, rfl, rfl, rfl, h_type, rfl, rfl⟩
  unfold toDomain
  rw [h_type]
  refine Raising.bind_eq_ok.mpr ⟨_, rfl, Raising.bind_eq_ok.mpr
    ⟨_, AudienceSelection.make_ok h_audience, ?_⟩⟩
  -- the domain checks again what the schema has checked
  unfold NotificationCreationInput.make
  split
  · rfl
  next e h_error => exact absurd (h_input.symm.trans h_error) (by simp)

/-! ### Stored audiences -/

/-- What is checked of a label. -/
def ExactLabel (label : String × String) : Prop :=
  (label.1.toList ≠ [] ∧ label.1.toList = strip label.1.toList) ∧
    label.2.toList ≠ [] ∧ label.2.toList = strip label.2.toList

theorem exactLabel_of_ok {seen : List String} {labels : List (String × String)}
    (h : validateLabelItems seen labels = .ok ()) : ∀ label ∈ labels, ExactLabel label := by
  induction labels generalizing seen with
  | nil => exact fun _ h_mem => absurd h_mem List.not_mem_nil
  | cons label rest ih =>
    obtain ⟨_, h_key, h⟩ := Raising.bind_eq_ok.mp h
    obtain ⟨_, h_value, h⟩ := Raising.bind_eq_ok.mp h
    split at h
    · exact absurd h (by simp)
    · exact List.forall_mem_cons.mpr
        ⟨⟨validateExactNonEmpty_ok.mp h_key, validateExactNonEmpty_ok.mp h_value⟩, ih h⟩

theorem validateLabels_ok_iff {labels : List (String × String)} :
    validateLabels labels = .ok () ↔
      labels ≠ [] ∧ (labels.map Prod.fst).Nodup ∧ ∀ label ∈ labels, ExactLabel label := by
  constructor
  · intro h
    obtain ⟨h_ne, h_nodup⟩ := validateLabels_ok h
    rw [validateLabels, if_neg h_ne] at h
    exact ⟨h_ne, h_nodup, exactLabel_of_ok h⟩
  · rintro ⟨h_ne, h_nodup, h_exact⟩
    rw [validateLabels, if_neg h_ne]
    exact validateLabelItems_ok h_exact h_nodup fun _ h_seen => absurd h_seen List.not_mem_nil

/-- The order of the labels does not matter to the check. -/
theorem validateLabels_perm {labels labels' : List (String × String)} (h : labels.Perm labels')
    (h_ok : validateLabels labels = .ok ()) : validateLabels labels' = .ok () := by
  obtain ⟨h_ne, h_nodup, h_exact⟩ := validateLabels_ok_iff.mp h_ok
  refine validateLabels_ok_iff.mpr ⟨fun h_nil => ?_, ?_, fun label h_label => ?_⟩
  · exact h_ne (List.perm_nil.mp (h_nil ▸ h))
  · exact (h.map Prod.fst).nodup_iff.mp h_nodup
  · exact h_exact label (h.mem_iff.mpr h_label)

/-- A value that is stored as a string is a string. -/
theorem eq_str_of_sorted {v : Json} {text : String} (h : v.sorted = .str text) :
    v = .str text := by
  cases v with
  | str _ => exact h
  | _ => exact absurd h (by simp [Json.sorted])

/-- An object that equals a given one: its fields are the same up to their order, and to the
order inside of their values. -/
theorem fields_of_sorted {v : Json} {fields : List (String × Json)}
    (h : v.sorted = .obj fields) :
    ∃ stored, v = .obj stored ∧ (Json.sortedFields stored).Perm fields := by
  cases v with
  | obj stored =>
    exact ⟨stored, rfl, (sortKeys_perm _).symm.trans (Json.obj.inj h ▸ .refl _)⟩
  | _ => exact absurd h (by simp [Json.sorted])

/-- The fields of a stored object, one by one. -/
theorem get?_of_sorted {v : Json} {fields : List (String × Json)} (h : v.sorted = .obj fields)
    (h_nodup : (fields.map Prod.fst).Nodup) (key : String) :
    (v.get? key).map Json.sorted = fields.lookup key := by
  obtain ⟨stored, rfl, h_perm⟩ := fields_of_sorted h
  have h_keys : (stored.map Prod.fst).Nodup := by
    have h_stored := (h_perm.map Prod.fst).nodup_iff.mpr h_nodup
    rwa [Json.sortedFields_eq_map, List.map_map] at h_stored
  rw [← Json.get?_sorted h_keys, h]
  rfl

/-- Stored labels are the labels, in some order. -/
theorem labels_of_sorted {v : Json} {labels : List (String × String)}
    (h : v.sorted = labelsObject labels) :
    ∃ items : List (String × String), v = .obj (items.map fun label => (label.1, .str label.2)) ∧
      items.Perm labels := by
  obtain ⟨stored, rfl, h_perm⟩ := fields_of_sorted h
  -- every stored field is a label: its sorted value is a text, so the value is that text
  rw [Json.sortedFields_eq_map] at h_perm
  obtain ⟨items, rfl⟩ : stored ∈ Set.range
      (List.map fun label : String × String => (label.1, Json.str label.2)) := by
    rw [Set.range_list_map]
    intro field h_field
    have h_mem := h_perm.mem_iff.mp (List.mem_map_of_mem h_field)
    obtain ⟨label, -, h_label⟩ := List.mem_map.mp h_mem
    obtain ⟨h_key, h_value⟩ := Prod.mk.inj h_label
    exact ⟨label, Prod.ext h_key (eq_str_of_sorted h_value.symm).symm⟩
  -- pairs of texts are told apart by the fields they are written as
  have h_inj : Function.Injective fun label : String × String => (label.1, Json.str label.2) := by
    intro a b h_eq
    obtain ⟨h_key, h_value⟩ := Prod.mk.inj h_eq
    exact Prod.ext h_key (Json.str.inj h_value)
  have h_items : (items.map fun label => (label.1, Json.str label.2)).Perm
      ((sortKeys labels).map fun label => (label.1, Json.str label.2)) := by
    rw [List.map_map] at h_perm
    exact h_perm
  exact ⟨items, rfl, ((List.map_perm_map_iff h_inj).mp h_items).trans (sortKeys_perm labels)⟩

/-- The labels are read as they are stored. -/
theorem mapM_labels (items : List (String × String)) :
    (items.map fun label => (label.1, Json.str label.2)).mapM (fun item => match item.2 with
      | .str value => some (item.1, value)
      | _ => none) = some items := by
  induction items with
  | nil => rfl
  | cons label items ih => rw [List.map_cons, List.mapM_cons, ih]; rfl

/-- **A stored audience is read back**, whatever order its labels have come to. -/
theorem audienceSelection_stored (notification : Notification) {audience : AudienceSelection}
    (h_type : notification.audienceType = audience.type)
    (h_stored : notification.audience.sorted = canonicalAudience audience) :
    ∃ read, NotificationFanoutService.audienceSelection notification = .ok read ∧
      read.Same audience := by
  unfold NotificationFanoutService.audienceSelection
  have h_valid := audience.valid
  cases audience.shape with
  | all h_all h_group h_labels =>
    -- the stored document has the fields of the canonical one, in some order
    have h_fields : notification.audience.sorted = .obj [("type", .str "all")] := by
      rw [h_stored, canonicalAudience, h_all]
      rfl
    have h_get := get?_of_sorted h_fields (by decide)
    -- and so it has neither a group nor labels
    have h_none_group : notification.audience.get? "group" = none :=
      Option.map_eq_none_iff.mp (h_get "group")
    have h_none_labels : notification.audience.get? "labels" = none :=
      Option.map_eq_none_iff.mp (h_get "labels")
    rw [h_all, h_group, h_labels] at h_valid
    simp only [h_none_group, h_none_labels, h_type, h_all]
    exact ⟨_, AudienceSelection.make_ok h_valid, h_all.symm, h_group.symm, by
      rw [AudienceSelection.labelSet, AudienceSelection.labelSet, h_labels]⟩
  | group name h_kind h_group h_labels =>
    have h_fields : notification.audience.sorted =
        .obj [("group", .str name), ("type", .str "group")] := by
      rw [h_stored, canonicalAudience, h_kind, h_group]
      rfl
    have h_get := get?_of_sorted h_fields (by decide : ["group", "type"].Nodup)
    obtain ⟨v, h_name, h_v⟩ := Option.map_eq_some_iff.mp (h_get "group")
    obtain rfl := eq_str_of_sorted h_v
    -- the group is read as it was written, and there are no labels
    have h_none_labels : notification.audience.get? "labels" = none :=
      Option.map_eq_none_iff.mp (h_get "labels")
    rw [h_kind, h_group, h_labels] at h_valid
    simp only [h_name, h_none_labels, h_type, h_kind]
    exact ⟨_, AudienceSelection.make_ok h_valid, h_kind.symm, h_group.symm, by
      rw [AudienceSelection.labelSet, AudienceSelection.labelSet, h_labels]⟩
  | labels labels h_kind h_group h_labels h_ne h_nodup =>
    have h_fields : notification.audience.sorted =
        .obj [("labels", labelsObject labels), ("type", .str "labels")] := by
      rw [h_stored, canonicalAudience, h_kind, h_labels]
      rfl
    have h_get := get?_of_sorted h_fields (by decide : ["labels", "type"].Nodup)
    have h_none_group : notification.audience.get? "group" = none :=
      Option.map_eq_none_iff.mp (h_get "group")
    obtain ⟨v, h_object, h_v⟩ := Option.map_eq_some_iff.mp (h_get "labels")
    -- the labels come back in another order, which neither the check nor the set depends on
    obtain ⟨items, rfl, h_perm⟩ := labels_of_sorted h_v
    rw [h_kind, h_group, h_labels] at h_valid
    have h_items : AudienceSelection.postInit .labels none (some items) = .ok () :=
      validateLabels_perm h_perm.symm h_valid
    have h_set : items.toFinset = labels.toFinset := List.toFinset_eq_of_perm _ _ h_perm
    simp only [h_none_group, h_object, h_type, h_kind]
    split
    next read h_read =>
      obtain rfl := Option.some.inj ((mapM_labels items).symm.trans h_read)
      exact ⟨_, AudienceSelection.make_ok h_items, h_kind.symm, h_group.symm, by
        rw [AudienceSelection.labelSet, AudienceSelection.labelSet, h_labels, Option.map_some,
          Option.map_some, h_set]⟩
    next h_read => exact absurd ((mapM_labels items).symm.trans h_read) (by simp)

/-! ### From the request to the users -/

/-- The selector is meant for the user. -/
def AudienceSelector.Targets (dir : Directory) (selector : AudienceSelector) (userId : UUID) :
    Prop :=
  selector.type = "all" ∨
  (selector.type = "group" ∧ ∃ name, selector.group = some name ∧ dir.InGroup userId name) ∨
  (selector.type = "labels" ∧
    ∃ labels, selector.labels = some labels ∧ dir.HasLabels userId labels.val)

/-- The same audience has the same targets. -/
theorem Directory.targets_congr {dir : Directory} {userId : UUID} {a a' : AudienceSelection}
    (h : a.Same a') : dir.Targets a userId ↔ dir.Targets a' userId := by
  unfold Targets
  rw [h.type, h.group]
  cases a'.type with
  | all => exact Iff.rfl
  | group => exact Iff.rfl
  -- the order of labels and their repetitions do not matter
  | labels =>
    have h_set := h.labels
    unfold AudienceSelection.labelSet at h_set
    cases h_a : a.labels with
    | none =>
      rw [h_a, Option.map_none] at h_set
      rw [Option.map_eq_none_iff.mp h_set.symm]
    | some labels =>
      rw [h_a, Option.map_some] at h_set
      obtain ⟨labels', h_a', h_eq⟩ := Option.map_eq_some_iff.mp h_set.symm
      have h_mem : ∀ label, label ∈ labels ↔ label ∈ labels' := by
        intro label
        rw [← List.mem_toFinset, ← h_eq, List.mem_toFinset]
      simp only [h_a', Option.some.injEq, exists_eq_left', HasLabels, h_mem]

/-- The audience of the domain has the targets of the selector. -/
theorem AudienceSelector.targets_iff {dir : Directory} {userId : UUID} {selector : AudienceSelector}
    {audience : AudienceSelection}
    (h_type : AudienceType.ofValue? selector.type = some audience.type)
    (h_group : audience.group = selector.group)
    (h_labels : audience.labels = selector.labels.map Subtype.val) :
    dir.Targets audience userId ↔ selector.Targets dir userId := by
  have h_value : audience.type.value = selector.type := by
    unfold AudienceType.ofValue? at h_type
    exact of_decide_eq_true (List.find?_some h_type :)
  unfold Directory.Targets AudienceSelector.Targets
  rw [← h_value, h_group, h_labels]
  cases audience.type with
  | all => simp [AudienceType.value]
  | group => simp [AudienceType.value]
  | labels => cases selector.labels <;> simp [AudienceType.value]

open NotificationCreationService in
/-- **Whom a request reaches.** Of a request that the schema accepts, `to_domain` does not
raise. The audience that is stored is read back by the fan-out as the same audience, whatever
order its fields come back in, and it is resolved to the active users that the request targets,
in the order of their identifiers. -/
theorem request_reaches_targets (request : CreateNotificationRequest) (dir : Directory) :
    ∃ input, request.toDomain = .ok input ∧
      ∀ (sourceService : String) (identity : NotificationIdentity) (fingerprint : String)
        (now : Instant) (id : UUID) (stored : Json),
        stored.sorted =
          (newNotification sourceService input identity fingerprint now id).audience.sorted →
        ∃ audience, NotificationFanoutService.audienceSelection
            { newNotification sourceService input identity fingerprint now id with
              audience := stored } = .ok audience ∧
          audience.Same input.audience ∧
          ∃ ids, dir.resolve audience = .ok ids ∧ ids.Pairwise (· < ·) ∧
            ∀ userId, userId ∈ ids ↔
              dir.IsActive userId ∧ request.audience.Targets dir userId := by
  obtain ⟨input, h_input, -, -, -, h_type, h_group, h_labels⟩ := request.toDomain_ok
  refine ⟨input, h_input, fun sourceService identity fingerprint now id stored h_stored => ?_⟩
  -- whatever order the database stores the fields in, they are the canonical ones
  have h_canonical : stored.sorted = canonicalAudience input.audience :=
    h_stored.trans (canonicalAudience_sorted input.audience)
  obtain ⟨audience, h_read, h_same⟩ := audienceSelection_stored
    { newNotification sourceService input identity fingerprint now id with audience := stored }
    rfl h_canonical
  obtain ⟨ids, h_ids, h_pairwise, h_mem⟩ := dir.resolve_targets audience
  refine ⟨audience, h_read, h_same, ids, h_ids, h_pairwise, fun userId => ?_⟩
  rw [h_mem, Directory.targets_congr h_same,
    AudienceSelector.targets_iff h_type h_group h_labels]

/-- A request for the users of one team on one site. -/
def teamRequest : CreateNotificationRequest where
  message := "hello"
  severity := .info
  audience := {
    type := "labels"
    group := none
    labels := some ⟨[("team", "core"), ("site", "x")], by decide⟩
    valid := by decide +kernel }
  channels := [.web]
  idempotencyKey := none
  valid := by decide +kernel

/-- User 1 has both labels, and user 2 one of them. -/
def teamDirectory : Directory where
  users := [⟨2, true⟩, ⟨1, true⟩]
  groups := []
  userGroups := []
  userLabels := [⟨1, "site", "x"⟩, ⟨1, "team", "core"⟩, ⟨2, "team", "core"⟩]
  users_nodup := by decide
  groups_nodup := List.nodup_nil
  names_nodup := List.nodup_nil
  userGroups_nodup := List.nodup_nil
  userLabels_nodup := by decide

/-- The audience of the request, as a database may return it. -/
def teamStored : Json :=
  .obj [("type", .str "labels"), ("labels", .obj [("team", .str "core"), ("site", .str "x")])]

open NotificationCreationService in
theorem teamRequest_reaches :
    ∃ input audience, teamRequest.toDomain = .ok input ∧
      NotificationFanoutService.audienceSelection
        { newNotification "billing" input (.explicit "billing" "key") "" 0 3 with
          audience := teamStored } = .ok audience ∧
      ∃ ids, teamDirectory.resolve audience = .ok ids ∧ 1 ∈ ids ∧ 2 ∉ ids := by
  obtain ⟨input, h_input, h_reach⟩ := request_reaches_targets teamRequest teamDirectory
  -- the stored order of the fields is not the one they were written in
  have h_stored : teamStored.sorted = (canonicalAudience input.audience).sorted := by
    obtain ⟨input', h_input', -, -, -, h_type, -, h_labels⟩ := teamRequest.toDomain_ok
    obtain rfl := Except.ok.inj (h_input.symm.trans h_input')
    have h_kind : input.audience.type = .labels := (Option.some.inj h_type).symm
    rw [canonicalAudience_sorted, canonicalAudience, h_kind, h_labels]
    simp [teamStored, teamRequest, Json.sorted, Json.sortedFields, sortKeys, labelsObject,
      AudienceType.value]
  obtain ⟨audience, h_read, -, ids, h_ids, -, h_mem⟩ :=
    h_reach "billing" (.explicit "billing" "key") "" 0 3 teamStored h_stored
  refine ⟨input, audience, h_input, h_read, ids, h_ids, (h_mem 1).mpr ⟨?_, ?_⟩, fun h => ?_⟩
  · exact ⟨⟨1, true⟩, by decide, rfl, rfl⟩
  · exact .inr (.inr ⟨rfl, _, rfl, by unfold Directory.HasLabels; decide⟩)
  · obtain ⟨-, h_targets⟩ := (h_mem 2).mp h
    rcases h_targets with h_type | ⟨h_type, -⟩ | ⟨-, labels, h_labels, h_has⟩
    · exact absurd h_type (by decide)
    · exact absurd h_type (by decide)
    · obtain rfl := Option.some.inj h_labels
      exact absurd (h_has ("site", "x") (by decide)) (by decide)

end NotificationBroker
