import NotificationBroker.Domain.ValueObjects
import Mathlib.Data.List.Sort
import Mathlib.Data.List.Dedup

/-!
# Users, groups and labels

The identity tables and the three queries of `UserRepository`, which decide who
receives a notification. A `Directory` carries the unique constraints of its
tables, and every audience it resolves is a list without repetitions.
-/

namespace NotificationBroker

open Python

/-- `users`. -/
structure User where
  id : UUID
  active : Bool
deriving DecidableEq

/-- `groups`. -/
structure Group where
  id : UUID
  name : String
deriving DecidableEq

/-- `user_groups`. -/
structure UserGroup where
  userId : UUID
  groupId : UUID
deriving DecidableEq

/-- `user_labels`. -/
structure UserLabel where
  userId : UUID
  key : String
  value : String
deriving DecidableEq

/-- The identity tables, with their primary keys and unique constraints. -/
structure Directory where
  users : List User
  groups : List Group
  userGroups : List UserGroup
  userLabels : List UserLabel
  users_nodup : (users.map User.id).Nodup
  groups_nodup : (groups.map Group.id).Nodup
  names_nodup : (groups.map Group.name).Nodup
  userGroups_nodup : userGroups.Nodup
  userLabels_nodup : (userLabels.map fun l => (l.userId, l.key)).Nodup
deriving DecidableEq

namespace Directory

theorem nodup_no_labels : (([] : List UserLabel).map fun l => (l.userId, l.key)).Nodup :=
  List.nodup_nil

variable (dir : Directory)

/-- `ORDER BY users.id`. -/
def orderById (ids : List UUID) : List UUID := ids.insertionSort (· ≤ ·)

/-- `list_active_user_ids`. -/
def listActiveUserIds : List UUID := orderById ((dir.users.filter (·.active)).map User.id)

/-- The rows of the group join for one user, one for each membership in a group
of that name. -/
def membershipsOf (groupName : String) (user : User) : List UUID :=
  (dir.userGroups.filter fun ug => ug.userId = user.id).flatMap fun ug =>
    (dir.groups.filter fun g => g.id = ug.groupId ∧ g.name = groupName).map fun _ => user.id

/-- `list_active_user_ids_by_group`. -/
def listActiveUserIdsByGroup (groupName : String) : List UUID :=
  orderById ((dir.users.filter (·.active)).flatMap (dir.membershipsOf groupName))

/-- The labels of a user among those asked for. -/
def matchingLabels (labels : List (String × String)) (user : User) : List UserLabel :=
  dir.userLabels.filter fun l => l.userId = user.id ∧ (l.key, l.value) ∈ labels

/-- `list_active_user_ids_by_labels`: the users with a label row that matches,
for whom as many distinct keys match as labels were asked for. -/
def listActiveUserIdsByLabels (labels : List (String × String)) : List UUID :=
  if labels = [] then []
  else orderById ((dir.users.filter fun u => u.active ∧ dir.matchingLabels labels u ≠ [] ∧
    ((dir.matchingLabels labels u).map UserLabel.key).dedup.length = labels.length).map User.id)

/-- `AudienceResolutionService.resolve`. -/
def resolve (audience : AudienceSelection) : Except PyError (List UUID) :=
  match audience.type with
  | .all => .ok dir.listActiveUserIds
  | .group =>
    match audience.group with
    | none => .error (.valueError "group audience requires group")
    | some group => .ok (dir.listActiveUserIdsByGroup group)
  | .labels =>
    match audience.labels with
    | none => .error (.valueError "labels audience requires labels")
    | some labels => .ok (dir.listActiveUserIdsByLabels labels)

theorem resolve_error {audience : AudienceSelection} {e : PyError}
    (h : dir.resolve audience = .error e) : ∃ message, e = .valueError message := by
  unfold resolve at h
  split at h
  · exact absurd h (by simp)
  all_goals
    split at h
    · exact ⟨_, (Except.error.inj h).symm⟩
    · exact absurd h (by simp)

/-! ### Resolved audiences have no repetitions -/

variable {dir}

theorem orderById_nodup {ids : List UUID} (h : ids.Nodup) : (orderById ids).Nodup :=
  (List.perm_insertionSort (· ≤ ·) ids).nodup_iff.mpr h

theorem filter_ids_nodup (keep : User → Bool) : ((dir.users.filter keep).map User.id).Nodup :=
  dir.users_nodup.sublist (List.filter_sublist.map _)

/-- Rows with one common key value, in a table where the key is unique, are at
most one row. -/
theorem const_nodup {α β γ : Type} {f : α → β} {rows : List α} {k : β} (c : γ)
    (h_nodup : (rows.map f).Nodup) (h_key : ∀ x ∈ rows, f x = k) :
    (rows.map fun _ => c).Nodup := by
  match rows with
  | [] => exact List.nodup_nil
  | [x] => exact List.nodup_singleton c
  | x :: y :: rest =>
    have h_same : f x = f y :=
      (h_key x List.mem_cons_self).trans (h_key y (by simp)).symm
    exact absurd h_nodup (by simp [h_same])

theorem mem_membershipsOf {groupName : String} {user : User} {id : UUID}
    (h : id ∈ dir.membershipsOf groupName user) : id = user.id := by
  obtain ⟨ug, -, h_join⟩ := List.mem_flatMap.mp h
  obtain ⟨g, -, rfl⟩ := List.mem_map.mp h_join
  rfl

/-- A user is a member of a named group at most once. -/
theorem membershipsOf_nodup (groupName : String) (user : User) :
    (dir.membershipsOf groupName user).Nodup := by
  refine List.nodup_flatMap.mpr ⟨fun ug _ => ?_, ?_⟩
  · have h_ids := dir.groups_nodup.sublist
      ((dir.groups.filter_sublist (p := fun g => g.id = ug.groupId ∧ g.name = groupName)).map
        Group.id)
    refine const_nodup (k := ug.groupId) _ h_ids fun g hg => ?_
    exact (of_decide_eq_true (List.mem_filter.mp hg).2).1
  · -- two memberships that both join lead to the one group of that name
    refine (dir.userGroups_nodup.filter _).imp_of_mem fun {ug ug'} h_mem h_mem' h_ne => ?_
    intro id h_join h_join'
    obtain ⟨g, hg, -⟩ := List.mem_map.mp h_join
    obtain ⟨g', hg', -⟩ := List.mem_map.mp h_join'
    simp only [List.mem_filter, decide_eq_true_eq] at hg hg' h_mem h_mem'
    obtain rfl : g = g' := List.inj_on_of_nodup_map dir.names_nodup hg.1 hg'.1
      (hg.2.2.trans hg'.2.2.symm)
    refine h_ne ?_
    cases ug
    cases ug'
    simp only [UserGroup.mk.injEq]
    exact ⟨h_mem.2.trans h_mem'.2.symm, hg.2.1.symm.trans hg'.2.1⟩

theorem listActiveUserIdsByGroup_nodup (groupName : String) :
    (dir.listActiveUserIdsByGroup groupName).Nodup := by
  refine orderById_nodup (List.nodup_flatMap.mpr ⟨fun u _ => membershipsOf_nodup groupName u, ?_⟩)
  have h_ids : (dir.users.filter (·.active)).Pairwise fun u v => u.id ≠ v.id :=
    List.pairwise_map.mp (@filter_ids_nodup dir (·.active))
  refine h_ids.imp fun {u v} h_ne id h_u h_v => h_ne ?_
  exact (mem_membershipsOf h_u).symm.trans (mem_membershipsOf h_v)

/-- **A resolved audience names every user once.** -/
theorem resolve_nodup {audience : AudienceSelection} {ids : List UUID}
    (h : dir.resolve audience = .ok ids) : ids.Nodup := by
  -- each of the three queries orders by the primary key of users
  unfold resolve at h
  split at h
  · obtain rfl := Except.ok.inj h
    exact orderById_nodup (filter_ids_nodup _)
  · split at h
    · exact absurd h (by simp)
    next group _ =>
      obtain rfl := Except.ok.inj h
      exact listActiveUserIdsByGroup_nodup group
  · split at h
    · exact absurd h (by simp)
    next labels _ =>
      obtain rfl := Except.ok.inj h
      unfold listActiveUserIdsByLabels
      split
      · exact List.nodup_nil
      · exact orderById_nodup (filter_ids_nodup _)

end Directory

end NotificationBroker
