import NotificationBroker.Framework.Outcomes
import NotificationBroker.System.Calls

/-!
# A refused fan-out

A consumer's call that ends with `FanoutLimitExceeded` has left the committed rows of
all tables alone: the exception is raised before the first row is inserted, and what
comes after the guard cannot raise it. Both are read off the program, statement by
statement (`Prog.Spares`, `Prog.Avoids`), and hold whatever the other processes do.
-/

namespace NotificationBroker

open Interleave Python

/-- The call ends with `FanoutLimitExceeded`. -/
def LimitExceeded {α : Type} (r : Except PyError α) : Prop :=
  ∃ recipients deliveries, r = .error (.fanoutLimitExceeded recipients deliveries)

/-- The committed recipients, deliveries and notifications, with their counters, are
the same. -/
def SameRows (w w' : World) : Prop :=
  w'.recipients.committed = w.recipients.committed ∧
  w'.deliveries.committed = w.deliveries.committed ∧
  w'.notifications.committed = w.notifications.committed

section Programs

variable {α β : Type} {p : Pid}

theorem not_limitExceeded_ok (a : α) : ¬ LimitExceeded (.ok a : Except PyError α) := by
  simp [LimitExceeded]

theorem not_limitExceeded_valueError {r : Except PyError α}
    (h : ∀ e, r = .error e → ∃ message, e = .valueError message) : ¬ LimitExceeded r := by
  rintro ⟨recipients, deliveries, rfl⟩
  obtain ⟨message, h_eq⟩ := h _ rfl
  exact absurd h_eq (by simp)

/-- A sequence of programs that do not raise the exception. -/
theorem avoids_bind {m : Program α} {g : α → Program β}
    (h : Prog.Avoids p LimitExceeded m) (hg : ∀ a, Prog.Avoids p LimitExceeded (g a)) :
    Prog.Avoids p LimitExceeded (m >>= g : Program β) := by
  refine Prog.Avoids.bind h fun r hr => ?_
  cases r with
  | ok a => exact hg a
  | error e =>
    rintro ⟨recipients, deliveries, h_eq⟩
    exact hr ⟨recipients, deliveries, congrArg Except.error (Except.error.inj h_eq)⟩

theorem avoids_perform (f : Action α) : Prog.Avoids p LimitExceeded (perform f) :=
  fun _ _ r _ _ => not_limitExceeded_ok r

theorem avoids_attempt {f : Action (Except PyError α)}
    (h : ∀ i w r w', f p i w = some (r, w') → ¬ LimitExceeded r) :
    Prog.Avoids p LimitExceeded (attempt f) := h

/-- A program all of whose steps leave the rows alone, followed by one that spares
them. -/
theorem spares_bind {m : Program α} {g : α → Program β}
    (h : Prog.Spares p SameRows (fun _ => True) m)
    (hg : ∀ a, Prog.Spares p SameRows LimitExceeded (g a)) :
    Prog.Spares p SameRows LimitExceeded (m >>= g : Program β) := by
  refine Prog.Spares.bind h (fun r _ => ?_) fun r hr => absurd trivial hr
  cases r with
  | ok a => exact hg a
  | error e => trivial

/-- A program that spares the rows, followed by one that does not raise the
exception. -/
theorem spares_bind_avoids {m : Program α} {g : α → Program β}
    (h : Prog.Spares p SameRows LimitExceeded m)
    (hg : ∀ a, Prog.Avoids p LimitExceeded (g a)) :
    Prog.Spares p SameRows LimitExceeded (m >>= g : Program β) := by
  refine Prog.Spares.bind h (fun r hr => ?_) fun r hr => ?_
  · obtain ⟨recipients, deliveries, rfl⟩ := hr
    trivial
  · cases r with
    | ok a => exact hg a
    | error e =>
      rintro ⟨recipients, deliveries, h_eq⟩
      exact hr ⟨recipients, deliveries, congrArg Except.error (Except.error.inj h_eq)⟩

theorem spares_act {Q : Except PyError α → Prop} {f : Action β}
    {k : β → Prog Pid Choice World (Except PyError α)}
    (h : ∀ i w r w', f p i w = some (r, w') → SameRows w w')
    (hk : ∀ r, Prog.Spares p SameRows Q (k r)) : Prog.Spares p SameRows Q (.act f k) :=
  fun i w r w' hf => .inl ⟨h i w r w' hf, hk r⟩

theorem sameRows_refl (w : World) : SameRows w w := ⟨rfl, rfl, rfl⟩

theorem spares_query {Q : Except PyError α → Prop} (f : Pid → World → α) :
    Prog.Spares p SameRows Q (query f) :=
  spares_act (fun i w r w' hf => by
    obtain ⟨-, rfl⟩ := Prod.mk.inj (Option.some.inj hf)
    exact sameRows_refl _) fun r => trivial

theorem spares_compute {result : Except PyError α} {g : α → Program β}
    (hg : ∀ a, result = .ok a → Prog.Spares p SameRows LimitExceeded (g a)) :
    Prog.Spares p SameRows LimitExceeded (compute result >>= g : Program β) := by
  cases result with
  | ok a => exact hg a rfl
  | error e => trivial

theorem avoids_compute {result : Except PyError α} {g : α → Program β}
    (h : ¬ LimitExceeded result) (hg : ∀ a, Prog.Avoids p LimitExceeded (g a)) :
    Prog.Avoids p LimitExceeded (compute result >>= g : Program β) :=
  avoids_bind (m := compute result) h hg

/-- Rolling back leaves the committed rows alone, and the outcome is that of the
body. -/
theorem spares_unitOfWork {Q : Except PyError α → Prop} {body : Program α}
    (h : Prog.Spares p SameRows Q body) : Prog.Spares p SameRows Q (unitOfWork body) := by
  refine Prog.Spares.bind h (fun r _ => ?_) fun r hr => ?_
  · cases r with
    | ok a => trivial
    | error e =>
      exact spares_act (fun i w u w' hf => by
        obtain ⟨-, rfl⟩ := Prod.mk.inj (Option.some.inj hf)
        exact sameRows_refl _) fun u => trivial
  · cases r with
    | ok a => exact hr
    | error e => exact fun _ _ _ _ _ => hr

theorem avoids_unitOfWork {body : Program α} (h : Prog.Avoids p LimitExceeded body) :
    Prog.Avoids p LimitExceeded (unitOfWork body) := by
  refine Prog.Avoids.bind h fun r hr => ?_
  cases r with
  | ok a => exact hr
  | error e => exact fun _ _ _ _ _ => hr

theorem spares_awareUtcNow {Q : Except PyError Instant → Prop} :
    Prog.Spares p SameRows Q awareUtcNow := by
  refine spares_act (fun i w r w' hf => ?_) fun r => trivial
  cases i with
  | time value =>
    obtain ⟨-, rfl⟩ := Prod.mk.inj (Option.some.inj hf)
    exact sameRows_refl _
  | _ => exact absurd hf (by simp)

theorem avoids_awareUtcNow : Prog.Avoids p LimitExceeded awareUtcNow := by
  refine avoids_attempt fun i w r w' hf => ?_
  cases i with
  | time value =>
    obtain ⟨rfl, -⟩ := Prod.mk.inj (Option.some.inj hf)
    split
    · simp [LimitExceeded]
    · exact not_limitExceeded_ok _
  | _ => exact absurd hf (by simp)

end Programs

/-! ### The consumer's call -/

namespace NotificationFanoutService

variable {p : Pid}

theorem avoids_addRecipients (notificationId : UUID) (createdAt : Instant) (userIds : List UUID) :
    Prog.Avoids p LimitExceeded
      (addRecipientsIgnoreConflicts notificationId createdAt userIds) := by
  induction userIds with
  | nil => exact not_limitExceeded_ok ()
  | cons userId userIds ih => exact avoids_bind (avoids_perform _) fun _ => ih

theorem avoids_addDeliveries (values : List (UUID → Delivery)) :
    Prog.Avoids p LimitExceeded (addDeliveriesIgnoreConflicts values) := by
  induction values with
  | nil => exact not_limitExceeded_ok ()
  | cons value values ih => exact avoids_bind (avoids_perform _) fun _ => ih

/-- Reading the pairs of a notification raises nothing but a `ValueError`. -/
theorem avoids_listDeliveryPairs {rows : List Delivery} {notificationId : UUID} :
    ¬ LimitExceeded (listDeliveryPairs rows notificationId) :=
  not_limitExceeded_valueError fun _ h => listDeliveryPairs_error h

theorem avoids_countDeliveries (notificationId : UUID) :
    Prog.Avoids p LimitExceeded (countDeliveries notificationId) := by
  refine avoids_attempt fun i w r w' hf => ?_
  split at hf
  next pairs _ =>
    obtain ⟨rfl, -⟩ := Prod.mk.inj (Option.some.inj hf)
    exact not_limitExceeded_ok pairs
  next e h_error =>
    obtain ⟨rfl, -⟩ := Prod.mk.inj (Option.some.inj hf)
    exact h_error ▸ avoids_listDeliveryPairs

/-- The transaction spares the rows: before the guard it only reads, and behind it
the exception is not raised. -/
theorem spares_fanout (service : NotificationFanoutService) (notification : Notification)
    (nextAttemptAt : Instant) :
    Prog.Spares p SameRows LimitExceeded (service.fanout notification nextAttemptAt) := by
  refine spares_compute fun audience _ => spares_bind ?_ fun userIds =>
    spares_compute fun channels _ => spares_compute fun _ _ => Prog.Avoids.spares ?_
  · -- up to the limits the fan-out only reads
    refine spares_act (fun i w r w' hf => ?_) fun r => trivial
    split at hf
    all_goals
      obtain ⟨-, rfl⟩ := Prod.mk.inj (Option.some.inj hf)
      exact sameRows_refl _
  · -- behind them no exception of the limits is raised any more
    refine avoids_bind (avoids_perform _) fun _ =>
      avoids_bind (avoids_addRecipients _ _ _) fun _ =>
      avoids_bind (avoids_perform _) fun recipientIds => avoids_bind ?_ fun pairs =>
      avoids_compute ?_ fun values => avoids_bind (avoids_addDeliveries _) fun _ =>
      avoids_bind (avoids_countDeliveries _) fun _ =>
      avoids_bind (avoids_perform _) fun _ => not_limitExceeded_ok _
    · refine avoids_attempt fun i w r w' hf => ?_
      obtain ⟨rfl, -⟩ := Prod.mk.inj (Option.some.inj hf)
      exact avoids_listDeliveryPairs
    · rintro ⟨recipients, deliveries, h_error⟩
      exact absurd (missingDeliveries_error h_error).1 (by simp)

theorem spares_fanoutNotification (service : NotificationFanoutService) (notificationId : UUID) :
    Prog.Spares p SameRows LimitExceeded (service.fanoutNotification notificationId) := by
  refine spares_bind spares_awareUtcNow fun nextAttemptAt => spares_unitOfWork ?_
  refine spares_bind (spares_act (fun i w r w' hf => ?_) fun r => trivial) fun found => ?_
  · split at hf
    all_goals
      obtain ⟨-, rfl⟩ := Prod.mk.inj (Option.some.inj hf)
      exact sameRows_refl _
  · cases found with
    | none => trivial
    | some notification => exact spares_fanout service notification nextAttemptAt

end NotificationFanoutService

open NotificationConsumerWorker in
/-- **A consumer's call spares the rows** whenever it ends with the exception. -/
theorem spares_consume {p : Pid} (service : NotificationFanoutService) (consumerName : String)
    (message : NotificationKafkaMessage) :
    Prog.Spares p SameRows LimitExceeded (consume service consumerName message) := by
  refine spares_bind (spares_unitOfWork (spares_query _)) fun processed => ?_
  cases processed with
  | true => trivial
  | false =>
    refine spares_bind_avoids (spares_bind_avoids ?_ fun _ => not_limitExceeded_ok _) fun _ =>
      avoids_bind (avoids_bind avoids_awareUtcNow fun now => avoids_unitOfWork ?_) fun _ =>
      not_limitExceeded_ok _
    · -- a payload that names no notification raises before the fan-out
      unfold handle
      split
      · split
        · exact NotificationFanoutService.spares_fanoutNotification service _
        · trivial
      · trivial
    · refine avoids_attempt fun i w r w' hf => ?_
      dsimp only at hf
      split at hf
      all_goals
        obtain ⟨rfl, -⟩ := Prod.mk.inj (Option.some.inj hf)
        simp [LimitExceeded]

/-- **A refused fan-out changes nothing**: no step of a consumer's call that ends with
the exception touches a committed row. -/
theorem Deployment.Run.refused {d : Deployment} {clock : Instant} {directory : Directory}
    {ls : Schedule} {c : State} (h : d.Run clock directory ls c) {p : Pid}
    {service : NotificationFanoutService} {consumerName : String}
    {message : NotificationKafkaMessage} {recipients deliveries : ℕ}
    (h_call : d.calls p = .consume service consumerName message)
    (hp : c.prog p = some (.ret (.error (.fanoutLimitExceeded recipients deliveries))))
    {ls₀ ls₁ : Schedule} {i : Choice} {c₀ c₁ : State} (h_eq : ls = ls₀ ++ .run p i :: ls₁)
    (h₀ : d.Run clock directory ls₀ c₀) (h_step : surroundings.step c₀ (.run p i) = some c₁) :
    SameRows c₀.world c₁.world := by
  have h_spares : Prog.Spares p SameRows LimitExceeded ((d.calls p).program d.sha256) := by
    rw [h_call]
    exact spares_bind_avoids (spares_consume service consumerName message) fun _ =>
      not_limitExceeded_ok _
  exact Machine.step_of_spares h rfl h_spares hp ⟨recipients, deliveries, rfl⟩ h_eq h₀ h_step

end NotificationBroker
