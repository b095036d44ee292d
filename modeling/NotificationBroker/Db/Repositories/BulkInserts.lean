import NotificationBroker.Db.Repositories.Notifications

/-!
# Bulk insert statements

`insert(Model).values(values)` compiles a list of dictionaries into one statement
with one bind parameter for each dictionary entry. The wire protocol counts the
parameters of a statement with sixteen bits.
-/

namespace NotificationBroker

open Python

/-- A value that is bound to a parameter. -/
inductive Parameter
  | uuid (value : UUID)
  | text (value : String)
  | int (value : ℕ)
  | timestamp (value : Instant)
deriving DecidableEq

/-- One multi-row `INSERT`: the items of its dictionaries. -/
structure BulkInsert where
  table : String
  values : List (List (String × Parameter))
deriving DecidableEq

namespace BulkInsert

/-- The most parameters a statement can bind. -/
def maxParameters : ℕ := 65535

/-- The parameters the statement binds. -/
def parameters (statement : BulkInsert) : ℕ := (statement.values.map List.length).sum

/-- PostgreSQL takes the statement. -/
def Executable (statement : BulkInsert) : Prop := statement.parameters ≤ maxParameters

instance (statement : BulkInsert) : Decidable statement.Executable := by
  unfold Executable; infer_instance

/-- Dictionaries of one size. -/
theorem parameters_eq {table : String} {values : List (List (String × Parameter))} {columns : ℕ}
    (h : ∀ entries ∈ values, entries.length = columns) :
    parameters ⟨table, values⟩ = values.length * columns := by
  unfold parameters
  induction values with
  | nil => simp
  | cons entries rest ih =>
    have h_rest := ih fun other h_other => h other (List.mem_cons_of_mem _ h_other)
    dsimp only at h_rest ⊢
    rw [List.map_cons, List.sum_cons, h_rest, h entries List.mem_cons_self, List.length_cons,
      Nat.succ_mul, Nat.add_comm]

end BulkInsert

/-- An element of `values` in `add_recipients_ignore_conflicts`. -/
def Recipient.entries (r : Recipient) : List (String × Parameter) :=
  [("id", .uuid r.id), ("notification_id", .uuid r.notificationId), ("user_id", .uuid r.userId),
    ("created_at", .timestamp r.createdAt)]

/-- An element of `delivery_values` in `fanout_notification`. -/
def Delivery.entries (d : Delivery) : List (String × Parameter) :=
  [("id", .uuid d.id), ("notification_recipient_id", .uuid d.notificationRecipientId),
    ("notification_id", .uuid d.notificationId), ("user_id", .uuid d.userId),
    ("channel", .text d.channel), ("status", .text d.status.value),
    ("attempt_count", .int d.attemptCount), ("max_attempts", .int d.maxAttempts),
    ("next_attempt_at", .timestamp d.nextAttemptAt), ("created_at", .timestamp d.createdAt),
    ("updated_at", .timestamp d.updatedAt)]

/-- The statement of `add_recipients_ignore_conflicts`, none without users. The `i`-th
call of `uuid4` returns `ids i`. -/
def recipientInserts (notificationId : UUID) (createdAt : Instant) (ids : ℕ → UUID)
    (userIds : List UUID) : List BulkInsert :=
  if userIds = [] then []
  else [⟨"notification_recipients", userIds.mapIdx fun i userId =>
    Recipient.entries ⟨ids i, notificationId, userId, createdAt⟩⟩]

/-- The statement of `add_deliveries_ignore_conflicts`, none without values. -/
def deliveryInserts (ids : ℕ → UUID) (values : List (UUID → Delivery)) : List BulkInsert :=
  if values = [] then []
  else [⟨"notification_deliveries", values.mapIdx fun i row => (row (ids i)).entries⟩]

theorem recipientInserts_executable_iff {notificationId : UUID} {createdAt : Instant}
    {ids : ℕ → UUID} {userIds : List UUID} :
    (∀ statement ∈ recipientInserts notificationId createdAt ids userIds,
      statement.Executable) ↔ userIds.length ≤ 16383 := by
  unfold recipientInserts
  split
  next h_nil => simp [h_nil]
  next =>
    have h_size : ∀ entries ∈ (userIds.mapIdx fun i userId =>
        Recipient.entries ⟨ids i, notificationId, userId, createdAt⟩), List.length entries = 4 := by
      intro entries h_entries
      obtain ⟨i, h_i, rfl⟩ := List.mem_mapIdx.mp h_entries
      rfl
    rw [List.forall_mem_singleton, BulkInsert.Executable, BulkInsert.parameters_eq h_size]
    simp only [List.length_mapIdx, BulkInsert.maxParameters]
    omega

theorem deliveryInserts_executable_iff {ids : ℕ → UUID} {values : List (UUID → Delivery)} :
    (∀ statement ∈ deliveryInserts ids values, statement.Executable) ↔ values.length ≤ 5957 := by
  unfold deliveryInserts
  split
  next h_nil => simp [h_nil]
  next =>
    have h_size : ∀ entries ∈ (values.mapIdx fun i row => (row (ids i)).entries),
        List.length entries = 11 := by
      intro entries h_entries
      obtain ⟨i, h_i, rfl⟩ := List.mem_mapIdx.mp h_entries
      rfl
    rw [List.forall_mem_singleton, BulkInsert.Executable, BulkInsert.parameters_eq h_size]
    simp only [List.length_mapIdx, BulkInsert.maxParameters]
    omega

end NotificationBroker
