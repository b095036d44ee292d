import NotificationBroker.System.Conformance.Api
import NotificationBroker.System.Conformance.Fanout
import NotificationBroker.System.Conformance.Workers

/-!
# Every run is verified

`Deployment.verified` puts the calls together: whatever they are, every process
of the deployment meets the contract from the start and ends as `Post` says for
its call. The composition rule carries this to every state of every run, and what
a single step can do to the world is one of the effects of `System.Effects`, a
move of the environment or a crash.
-/

namespace NotificationBroker

open Interleave Python
open ReadCommitted (Table Grows)

/-- How the call of `p` ends. -/
def Post (d : Deployment) (p : Pid) (outcome : Outcome) (w : World) : Prop :=
  match d.calls p with
  | .createNotification .. => ∃ r, outcome = r.map .created ∧ CreatePost d p r w
  | .consume .. => ∃ r, outcome = r.map .consumed ∧ ConsumePost p r w
  | .retryNotification .. | .retryNotificationForService .. | .retryUserNotification .. =>
    ∃ r, outcome = r.map .retried ∧ RetryPost p r w
  | .publishDueEvents .. | .processDueDeliveries .. | .markRead .. => Running p w

variable {d : Deployment} {p : Pid} {w w' : World}

/-- The answer of a call carries the postcondition of its result. -/
theorem Meets.answer_post {α : Type} {m : Program α} {wrap : α → Answer}
    {Q : Except PyError α → World → Prop} (hS : Sound w) (hQ : ∀ r, Stable p (Q r))
    (h : Meets d p m Q w) :
    Meets d p (m.answer wrap) (fun outcome w => ∃ r, outcome = r.map wrap ∧ Q r w) w := by
  refine h.answer hS (fun outcome w w' hR hS' ⟨r, h_eq, h_post⟩ =>
    ⟨r, h_eq, hQ r w w' hR hS' h_post⟩) (fun b _ h_post => ⟨.ok b, rfl, h_post⟩)
    fun e _ h_post => ⟨.error e, rfl, h_post⟩

/-- A call that ends as it started. -/
theorem Meets.answer_running {α : Type} {m : Program α} {wrap : α → Answer}
    (hS : Sound w) (h : Meets d p m (fun _ => Running p) w) :
    Meets d p (m.answer wrap) (fun _ => Running p) w :=
  h.answer hS (fun _ => running_stable) (fun _ _ hK => hK) fun _ _ hK => hK

/-- **Every call conforms**, from the empty database on. -/
theorem Call.program_meets (clock : Instant) (directory : Directory) :
    Meets d p ((d.calls p).program d.sha256) (Post d p) (World.initial clock directory) := by
  have hS := Sound.initial clock directory
  unfold Post
  -- one call, one lemma of `System.Conformance`
  cases h_call : d.calls p with
  | createNotification service sourceService request idempotencyKey =>
    exact (createNotification_meets h_call rfl rfl).answer_post hS createPost_stable
  | publishDueEvents publisher limit => exact (publishDueEvents_meets h_call).answer_running hS
  | consume fanoutService consumerName message =>
    exact (consume_meets h_call hS rfl).answer_post hS consumePost_stable
  | processDueDeliveries worker limit =>
    exact (processDueDeliveries_meets worker limit h_call rfl).answer_running hS
  | retryNotification notificationId requestedByType requestedById =>
    exact (retryAll_meets _ notificationId _ (congrArg Call.part h_call)).answer_post hS
      retryPost_stable
  | retryNotificationForService notificationId requestedById canRetryAny =>
    exact (retryAll_meets _ notificationId _ (congrArg Call.part h_call)).answer_post hS
      retryPost_stable
  | retryUserNotification webNotificationId userId =>
    exact (retryUserNotification_meets webNotificationId userId
      (congrArg Call.part h_call)).answer_post hS retryPost_stable
  | markRead userId webNotificationId =>
    exact (markRead_meets userId webNotificationId (congrArg Call.part h_call)).answer_running hS

theorem Deployment.verified (d : Deployment) (clock : Instant) (directory : Directory) :
    (d.start clock directory).Verified (contract d) (Post d) where
  inv := Sound.initial clock directory
  safe p m hm := by
    obtain rfl := Option.some.inj hm
    exact Call.program_meets clock directory
      ⟨fun _ h => absurd h List.not_mem_nil, fun _ h => absurd h List.not_mem_nil⟩
  crashed p hp := absurd hp (by simp [Deployment.start])

/-- What a step of the system can do to the world. -/
abbrev WorldMove (d : Deployment) (w w' : World) : Prop := Move (contract d) surroundings w w'

namespace WorldMove

/-- The notifications keep their request, and the rows that are inserted are
those a creation builds, under an identifier it has generated. -/
theorem notifications (h : WorldMove d w w') : ∃ p, Table.Change Notification.SameRequest
    (fun row => d.Requests p w row ∧ (row.id, p) ∈ w'.issued) p w.notifications
    w'.notifications := by
  cases h with
  | act p h => exact ⟨p, h.notifications⟩
  | env e h =>
    obtain ⟨clock, directory, rfl⟩ := env_apply h
    exact ⟨0, .keep⟩
  | abort p h => exact ⟨p, h ▸ .abort⟩

/-- The recipients are never updated, and the rows that are inserted are those of
an open fan-out. -/
theorem recipients (h : WorldMove d w w') :
    ∃ p, Table.Change Eq (w.Receives p) p w.recipients w'.recipients := by
  cases h with
  | act p h => exact ⟨p, h.recipients⟩
  | env e h =>
    obtain ⟨clock, directory, rfl⟩ := env_apply h
    exact ⟨0, .keep⟩
  | abort p h => exact ⟨p, h ▸ .abort⟩

/-- The committed deliveries are updated step by step, and the rows that are
inserted are those of an open fan-out. -/
theorem deliveries (hS : Sound w) (h : WorldMove d w w') :
    ∃ p, Table.Change Delivery.Step (w.Delivers p) p w.deliveries w'.deliveries := by
  cases h with
  | act p h => exact ⟨p, h.deliveries hS⟩
  | env e h =>
    obtain ⟨clock, directory, rfl⟩ := env_apply h
    exact ⟨0, .keep⟩
  | abort p h => exact ⟨p, h ▸ .abort⟩

/-- The committed notifications stay. -/
theorem notifications_grow (h : WorldMove d w w') :
    Grows Notification.SameRequest w.notifications.committed w'.notifications.committed := by
  obtain ⟨p, h_change⟩ := h.notifications
  exact h_change.grows fun n => Eq.refl n.request

/-- The committed deliveries keep their identity and their outcome. -/
theorem deliveries_follow (hS : Sound w) (h : WorldMove d w w') :
    Grows Delivery.Follows w.deliveries.committed w'.deliveries.committed := by
  obtain ⟨p, h_change⟩ := h.deliveries hS
  exact (h_change.grows Delivery.Step.keep).imp fun h_step => h_step.follows

/-- What has happened has happened. -/
theorem history_extends (h : WorldMove d w w') : w.history <+: w'.history := by
  cases h with
  | act p h => exact h.history_extends
  | env e h =>
    obtain ⟨clock, directory, rfl⟩ := env_apply h
    exact List.prefix_rfl
  | abort p h => exact h ▸ List.prefix_rfl

/-- What has been generated has been generated. -/
theorem issued_extends (h : WorldMove d w w') : w.issued <+: w'.issued := by
  cases h with
  | act p h =>
    obtain ⟨ids, h_issued⟩ := h.issued
    exact h_issued ▸ List.prefix_append _ _
  | env e h =>
    obtain ⟨clock, directory, rfl⟩ := env_apply h
    exact List.prefix_rfl
  | abort p h => exact h ▸ List.prefix_rfl

/-- Only an action of a running call records anything. -/
theorem effect_of_history (h : WorldMove d w w') (h_ne : w'.history ≠ w.history) :
    ∃ p, Effect d p w w' := by
  cases h with
  | act p h =>
    cases h with
    | finish h => exact absurd h.history h_ne
    | effect h => exact ⟨p, h⟩
  | env e h =>
    obtain ⟨clock, directory, rfl⟩ := env_apply h
    exact absurd rfl h_ne
  | abort p h =>
    subst h
    exact absurd rfl h_ne

theorem recorded {event : Event} (h : WorldMove d w w')
    (h_new : event ∈ w'.history) (h_old : event ∉ w.history) : ∃ p, Effect d p w w' :=
  h.effect_of_history fun h_eq => h_old (h_eq ▸ h_new)

theorem appended {event : Event} (h : WorldMove d w w')
    (h_event : w'.history = w.history ++ [event]) : ∃ p, Effect d p w w' :=
  h.effect_of_history fun h_eq => by simp [h_eq] at h_event

/-- Every delivery follows from an earlier one in a step, or is initial. -/
theorem delivery_origin (hS : Sound w) (h : WorldMove d w w') {r' : Delivery}
    (hr' : r' ∈ w'.deliveries.rows) :
    (∃ r ∈ w.deliveries.rows, r.Step r') ∨ r'.Initial := by
  obtain ⟨p, h_change⟩ := h.deliveries hS
  exact (h_change.origin Delivery.Step.keep hr').imp_right World.Delivers.initial

end WorldMove

/-- What a step records. -/
def newEvents (w w' : World) : List Event := w'.history.drop w.history.length

theorem newEvents_of_append {events : List Event} (h : w'.history = w.history ++ events) :
    newEvents w w' = events := by
  rw [newEvents, h, List.drop_left]

/-- A step that records nothing. -/
theorem not_mem_newEvents (h : w'.history = w.history) {event : Event} :
    event ∉ newEvents w w' := by
  rw [newEvents_of_append (h.trans (List.append_nil _).symm)]
  exact List.not_mem_nil

/-- What has happened has happened before, or in this step. -/
theorem WorldMove.mem_history (h : WorldMove d w w') {event : Event} (h_mem : event ∈ w'.history) :
    event ∈ w.history ∨ event ∈ newEvents w w' := by
  obtain ⟨events, h_eq⟩ := h.history_extends
  rw [newEvents_of_append h_eq.symm]
  exact List.mem_append.mp (h_eq ▸ h_mem)

/-- A reading of the clock is the time. -/
def Event.honest (w : World) : Event → Prop
  | .clockRead _ value => value.instant = w.clock
  | _ => True

instance (w : World) : DecidablePred (Event.honest w)
  | .clockRead .. | .deliveriesClaimed .. | .contextLoaded .. | .adapterCalled ..
  | .deliveryFinalized .. | .eventFinalized .. | .fanoutCommitted .. | .readMarked .. => by
    unfold Event.honest
    infer_instance

/-- All processes read one clock. -/
def Honest (w w' : World) : Prop := ∀ e ∈ newEvents w w', e.honest w

instance (w w' : World) : Decidable (Honest w w') := by
  unfold Honest; infer_instance

/-! ### The clock -/

/-- The clock does not go back. -/
theorem WorldMove.clock_le (h : WorldMove d w w') : w.clock ≤ w'.clock := by
  cases h with
  | act p h =>
    cases h with
    | finish h => cases h <;> exact le_rfl
    | effect h => cases h <;> exact le_rfl
  | env e h =>
    cases e with
    -- the clock is never set back
    | tick clock =>
      simp only [surroundings, EnvMove.apply, Option.ite_none_right_eq_some,
        Option.some.injEq] at h
      obtain ⟨h_le, rfl⟩ := h
      exact h_le
    | setDirectory directory =>
      simp only [surroundings, EnvMove.apply, Option.ite_none_right_eq_some,
        Option.some.injEq] at h
      obtain ⟨-, rfl⟩ := h
      exact le_rfl
  | abort p h => exact h ▸ le_rfl

/-- No process has read a time that is still to come. -/
def ReadingsPast (w : World) : Prop := ∀ p now, w.HasRead p now → now ≤ w.clock

theorem WorldMove.readingsPast (hP : ReadingsPast w) (h : WorldMove d w w')
    (h_honest : Honest w w') : ReadingsPast w' := by
  have h_clock := h.clock_le
  by_cases h_same : w'.history = w.history
  · rintro q now ⟨value, h_value, rfl⟩
    rw [World.readings, h_same] at h_value
    exact (hP q _ ⟨value, h_value, rfl⟩).trans h_clock
  · obtain ⟨p, h_effect⟩ := h.effect_of_history h_same
    obtain ⟨event, h_eq, -⟩ := h_effect.history.resolve_left h_same
    rintro q now ⟨value, h_value, rfl⟩
    rw [World.readings, h_eq] at h_value
    obtain ⟨e, he, h_e⟩ := List.mem_filterMap.mp h_value
    rcases List.mem_append.mp he with he | he
    · exact (hP q _ ⟨value, List.mem_filterMap.mpr ⟨e, he, h_e⟩, rfl⟩).trans h_clock
    · -- the reading that has just been made
      obtain rfl := List.mem_singleton.mp he
      have h_now := h_honest e (by
        rw [newEvents_of_append h_eq]
        exact List.mem_singleton_self _)
      cases e with
      | clockRead q' value' =>
        simp only [Option.ite_none_right_eq_some, Option.some.injEq] at h_e
        obtain ⟨-, rfl⟩ := h_e
        exact (show value'.instant = w.clock from h_now).le.trans h_clock
      | _ => exact absurd h_e (by simp)

namespace Deployment.Run

variable {clock : Instant} {directory : Directory} {ls ls' : Schedule} {c c' : State}

theorem verified (h : d.Run clock directory ls c) : c.Verified (contract d) (Post d) :=
  (d.verified clock directory).run (contract_discipline d) h

theorem sound (h : d.Run clock directory ls c) : Sound c.world := h.verified.inv

/-- What a finished call has established. -/
theorem post (h : d.Run clock directory ls c) {outcome : Outcome}
    (hp : c.prog p = some (.ret outcome)) : Post d p outcome c.world :=
  h.verified.result (contract_discipline d) hp

/-- A call that has not finished has committed neither a notification nor an
audit row. -/
theorem running (h : d.Run clock directory ls c) (hp : ∀ outcome, c.prog p ≠ some (.ret outcome)) :
    Running p c.world := h.verified.running (contract_discipline d) hp

/-- What a step of the call of `p` does. -/
theorem act (h : d.Run clock directory ls c) {p : Pid} {i : Choice}
    (h_step : surroundings.step c (.run p i) = some c') : Acts d p c.world c'.world :=
  h.verified.act (contract_discipline d) h_step

/-- What a step from a state of a run can do. -/
theorem move (h : d.Run clock directory ls c) {l : Label Pid Choice EnvMove}
    (h_step : surroundings.step c l = some c') : WorldMove d c.world c'.world :=
  h.verified.move (contract_discipline d) h_step

/-- **Invariants of runs**: what holds of the empty database and is preserved by
every move that meets `D` holds at the end of every run that meets `D`. -/
theorem invariant {P : World → Prop} {D : World → World → Prop}
    (h_initial : P (World.initial clock directory))
    (h_move : ∀ w w', Sound w → P w → WorldMove d w w' → D w w' → P w')
    (h : d.Run clock directory ls c)
    (h_meet : surroundings.StepsMeet D (d.start clock directory) ls) : P c.world :=
  (d.verified clock directory).invariant (contract_discipline d) h_move h_initial h h_meet

/-- Invariants of all runs. -/
theorem always {P : World → Prop} (h_initial : P (World.initial clock directory))
    (h_move : ∀ w w', Sound w → P w → WorldMove d w w' → P w')
    (h : d.Run clock directory ls c) : P c.world :=
  h.invariant h_initial (fun w w' hS hP hM _ => h_move w w' hS hP hM)
    (Machine.stepsMeet_true ls)

/-- What the steps of a run add up to. -/
theorem collected {β : Type} {f : World → World → List β} {P : List β → World → Prop}
    (h_initial : P [] (World.initial clock directory))
    (h_move : ∀ t w w', Sound w → Sound w' → P t w → WorldMove d w w' → P (t ++ f w w') w')
    (h : d.Run clock directory ls c) :
    P (surroundings.collect f (d.start clock directory) ls) c.world :=
  (d.verified clock directory).collected (contract_discipline d) (t := []) h_move h_initial h

/-- What holds of every move relates a state of a run to the later ones. -/
theorem along {S : World → World → Prop} (h_refl : ∀ w, S w w)
    (h_trans : ∀ {w w' w''}, S w w' → S w' w'' → S w w'')
    (h_move : ∀ w w', Sound w → WorldMove d w w' → S w w')
    (h : d.Run clock directory ls c) (h' : surroundings.run c ls' = some c') :
    S c.world c'.world :=
  h.verified.along (contract_discipline d) h_refl h_trans h_move h'

theorem notifications_grow (h : d.Run clock directory ls c)
    (h' : surroundings.run c ls' = some c') :
    Grows Notification.SameRequest c.world.notifications.committed
      c'.world.notifications.committed :=
  h.along (S := fun w w' => Grows Notification.SameRequest w.notifications.committed
      w'.notifications.committed)
    (fun _ => .refl (S := Notification.SameRequest) (fun n => Eq.refl n.request) _)
    (fun h h' => h.trans (fun h₁ h₂ => Eq.trans h₂ h₁) h')
    (fun _ _ _ hM => WorldMove.notifications_grow hM) h'

theorem history_extends (h : d.Run clock directory ls c)
    (h' : surroundings.run c ls' = some c') : c.world.history <+: c'.world.history :=
  h.along (S := fun w w' => w.history <+: w'.history) (fun _ => List.prefix_rfl)
    (fun h h' => h.trans h') (fun _ _ _ hM => WorldMove.history_extends hM) h'

/-- The committed recipients stay. -/
theorem recipients_grow (h : d.Run clock directory ls c)
    (h' : surroundings.run c ls' = some c') :
    Grows Eq c.world.recipients.committed c'.world.recipients.committed :=
  h.along (S := fun w w' => Grows Eq w.recipients.committed w'.recipients.committed)
    (fun _ => .refl (fun _ => rfl) _) (fun h h' => h.trans Eq.trans h')
    (fun _ _ _ hM => by
      obtain ⟨p, h_change⟩ := WorldMove.recipients hM
      exact h_change.grows fun _ => rfl) h'

theorem deliveries_follow (h : d.Run clock directory ls c)
    (h' : surroundings.run c ls' = some c') :
    Grows Delivery.Follows c.world.deliveries.committed c'.world.deliveries.committed :=
  h.along (S := fun w w' => Grows Delivery.Follows w.deliveries.committed w'.deliveries.committed)
    (fun _ => .refl Delivery.Follows.refl _)
    (fun h h' => h.trans Delivery.Follows.trans h') (fun _ _ hS hM => hM.deliveries_follow hS) h'

/-- If all processes read one clock, then what they have read is past. -/
theorem readingsPast (h : d.Run clock directory ls c)
    (h_honest : surroundings.StepsMeet Honest (d.start clock directory) ls) :
    ReadingsPast c.world := by
  refine h.invariant (P := ReadingsPast) ?_ (fun _ _ _ hP hM h => WorldMove.readingsPast hP hM h)
    h_honest
  rintro p now ⟨value, h_value, -⟩
  exact absurd h_value List.not_mem_nil

end Deployment.Run

/-! ### Runs that can be replayed -/

/-- A schedule whose steps are all enabled is a run. -/
theorem Deployment.exists_run (d : Deployment) (clock : Instant) (directory : Directory)
    (ls : Schedule) (f : State → Bool)
    (h : (surroundings.run (d.start clock directory) ls).map f = some true) :
    ∃ c, d.Run clock directory ls c ∧ f c = true :=
  Option.map_eq_some_iff.mp h

/-- The deployment with the given calls and no others. -/
def Deployment.ofCalls (sha256 : String → String) (calls : List Call) : Deployment where
  sha256 := sha256
  calls p := calls.getD p (.markRead 0 0)

/-- A directory of active users. -/
def Directory.ofUsers (ids : List UUID) (h : ids.Nodup) : Directory where
  users := ids.map fun id => ⟨id, true⟩
  groups := []
  userGroups := []
  userLabels := []
  users_nodup := by simpa [Function.comp_def] using h
  groups_nodup := List.nodup_nil
  names_nodup := List.nodup_nil
  userGroups_nodup := List.nodup_nil
  userLabels_nodup := Directory.nodup_no_labels

theorem postInit_web : NotificationCreationInput.postInit "hello" [.web] = .ok () := by decide

theorem postInit_email : NotificationCreationInput.postInit "hello" [.email] = .ok () := by decide

theorem postInit_web_email :
    NotificationCreationInput.postInit "hello" [.web, .email] = .ok () := by decide

/-- A request to everyone. -/
def NotificationCreationInput.toAll (channels : List Channel)
    (h : NotificationCreationInput.postInit "hello" channels = .ok ()) :
    NotificationCreationInput :=
  ⟨"hello", .info, ⟨.all, none, none, rfl⟩, channels, h⟩

/-- The record of a requested event. -/
def NotificationKafkaMessage.requested (eventId notificationId : UUID) :
    NotificationKafkaMessage where
  key := notificationId.str
  eventId := eventId
  eventType := "notification.requested"
  occurredAt := .ofInstant 0
  payload := .obj [("notification_id", .str notificationId.str), ("source_service", .str "orders")]
  rawMessage := ⟨none, []⟩

end NotificationBroker
