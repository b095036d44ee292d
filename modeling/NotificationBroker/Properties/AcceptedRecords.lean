import NotificationBroker.Properties.EventRoundTrip
import NotificationBroker.Properties.OutboxBatch
import NotificationBroker.Properties.SchemaConstraints

/-!
# What the topic holds

Publishers hand their records to the broker outside of any transaction, from claims that may have
been lost by then, and a broker that raises may have accepted the record all the same. Nothing
ties the topic to the database but the order of the statements: a record is made of a claim, a
claim of a row, and the columns it is made of never change.

So whatever has been accepted is the record of an event that is still in the outbox
(`Deployment.Run.accepted_origin`), it decodes, and it names a committed notification
(`acceptedRecords_decoded`): a consumer meets no poison record, unless somebody else writes to the
topic.
-/

namespace NotificationBroker

open Interleave Interleave.Prog Python
open ReadCommitted (Table Grows)
open KafkaNotificationConsumer (decoded supportedEventTypes)

/-! ### Where a record comes from -/

section Programs

variable {p : Pid} {record : KafkaRecord}

/-- The record is not handed to the broker. -/
def NotAccepted (record : KafkaRecord) (w w' : World) : Prop :=
  record ∈ w'.accepted → record ∈ w.accepted

theorem SameLogs.notAccepted {w w' : World} (h : SameLogs w w') : NotAccepted record w w' :=
  fun h_mem => h.2 ▸ h_mem

theorem ClaimedOutboxEvent.kafkaRecord_ofRow (e : OutboxEvent) (token : UUID) :
    OutboxPublisher.kafkaRecord (.ofRow e token) = e.kafkaRecord := rfl

/-- A publisher hands over the record of a row that it has claimed. -/
theorem publishDueEvents_awaits_row (publisher : OutboxPublisher) (limit : ℤ) :
    Prog.Awaits p (fun w _ => ∃ e ∈ w.outbox, e.kafkaRecord = record) (NotAccepted record)
      (OnReturn fun _ => True) (publisher.publishDueEvents limit) := by
  refine publishDueEvents_awaits (fun claim => OutboxPublisher.kafkaRecord claim ≠ record)
    (fun _ _ => SameLogs.notAccepted) (fun claim h_other w w' _ h_accepted h_mem => ?_)
    (fun w w' e he token h_record => ?_) publisher limit
  · exact (List.mem_cons.mp (h_accepted h_mem)).resolve_left fun h_eq => h_other h_eq.symm
  · exact ⟨e, he, not_not.mp h_record⟩

/-- A consumer hands over nothing. -/
theorem consume_notAccepted (service : NotificationFanoutService) (consumerName : String)
    (message : NotificationKafkaMessage) :
    Prog.Awaits p (fun _ _ => False) (NotAccepted record) (OnReturn fun _ => True)
      (NotificationConsumerWorker.consume service consumerName message) := by
  have h_silent : ∀ {α : Type} {Q : Except PyError α → Prop} {m : Program α},
      Prog.Awaits p (fun _ _ => False) SameLogs Q m →
      Prog.Awaits p (fun _ _ => False) (NotAccepted record) Q m := fun h =>
    h.mono (fun _ _ h => h) (fun _ _ => SameLogs.notAccepted) fun _ h => h
  refine Awaits.bind_raising (R := fun _ => True) (h_silent (awaits_block awaits_select))
    fun seen _ => ?_
  cases seen with
  | true => exact awaits_return trivial
  | false =>
    refine Awaits.bind_raising (R := fun _ => True) ?_ fun _ _ =>
      Awaits.bind_raising (R := fun _ => True) ?_ fun _ _ => awaits_return trivial
    · refine Awaits.bind_raising (R := fun _ => True) (h_silent ?_) fun _ _ => awaits_return trivial
      exact NotificationConsumerWorker.handle_awaits service message.payload
        (.inr fun _ => trivial)
    · refine Awaits.bind_raising (R := fun _ => True) (h_silent awaits_clock) fun now _ => ?_
      refine awaits_unitOfWork (fun _ h => h) (awaits_attempt fun i w r w' hf => .inr ⟨?_, ?_⟩)
      · -- the row is all that is written
        dsimp only at hf
        split at hf <;> obtain ⟨-, rfl⟩ := Prod.mk.inj (Option.some.inj hf) <;> exact id
      · exact fun _ _ => trivial

/-- Every call hands over the records of rows it has claimed, if any. -/
theorem Call.program_awaits_row {sha256 : String → String} (call : Call) :
    Prog.Awaits p (fun w _ => ∃ e ∈ w.outbox, e.kafkaRecord = record) (NotAccepted record)
      (fun _ => True) (call.program sha256) := by
  cases call with
  | publishDueEvents publisher limit =>
    exact awaits_answer_any _ (publishDueEvents_awaits_row publisher limit)
  | consume service consumerName message =>
    exact (awaits_answer_any _ (consume_notAccepted service consumerName message)).mono
      (fun _ _ h => h.elim) (fun _ _ h => h) fun _ h => h
  | _ =>
    exact (Call.program_same (by simp [Call.part]) (by simp [Call.part])).mono (fun _ _ h => h)
      (fun _ _ => SameLogs.notAccepted) fun _ h => h

end Programs

/-! ### What a step does to the events -/

section Moves

variable {d : Deployment} {w w' : World}

/-- The columns of an event that make its message never change. -/
theorem WorldMove.outbox_messages (h : WorldMove d w w') :
    Grows OutboxEvent.SameMessage w.outbox w'.outbox := by
  cases h with
  | act p h =>
    cases h with
    | effect h =>
      cases h with
      | claimEvents now leaseExpiresAt workerId tokens claims =>
        exact .map fun e _ =>
          OutboxEvent.applyClaims_sameMessage claims now leaseExpiresAt workerId e
      | finalizeEvent publisher claim now errorMessage e =>
        refine .map fun r _ => ?_
        split
        · exact OutboxEvent.finalized_sameMessage publisher now errorMessage r
        · exact .refl r
      | _ => exact .refl .refl _
    -- the transactions of requests only add events
    | finish h => cases h <;> exact .append .refl _ _
  | env e h =>
    obtain ⟨clock, directory, rfl⟩ := env_apply h
    exact .refl .refl _
  | abort p h => exact h ▸ .refl .refl _

/-- The broker has accepted the records of the published events. -/
def PublishedAccepted (w : World) : Prop :=
  ∀ e ∈ w.outbox, e.status = .published → e.kafkaRecord ∈ w.accepted

theorem OutboxEvent.SameMessage.kafkaRecord {e e' : OutboxEvent} (h : e.SameMessage e') :
    e'.kafkaRecord = e.kafkaRecord :=
  congrArg OutboxPublisher.kafkaRecord (h.message 0)

theorem Effect.publishedAccepted {p : Pid} (hS : Sound w) (hP : PublishedAccepted w)
    (h : Effect d p w w') : PublishedAccepted w' := by
  cases h with
  | claimEvents now leaseExpiresAt workerId tokens claims =>
    intro e' he' h_status
    obtain ⟨e, he, rfl⟩ := List.mem_map.mp he'
    have h_same := OutboxEvent.applyClaims_sameMessage claims now leaseExpiresAt workerId e
    rw [h_same.kafkaRecord]
    refine hP e he ?_
    unfold OutboxEvent.applyClaims at h_status
    split at h_status
    · exact absurd h_status (by simp [OutboxEvent.claim])
    · exact h_status
  | publish claim accepted =>
    exact fun e he h_status => List.mem_append_left _ (hP e he h_status)
  | finalizeEvent publisher claim now errorMessage e h_publisher h_claim h_mem h_held h_accepted =>
    intro r hr h_status
    rcases OutboxHistory.finalize_rows hS h_mem h_held hr with rfl | ⟨hr, -⟩
    · -- the row that is finalized is the one the claim was made of
      obtain ⟨e', he', h_of⟩ := h_claim
      have h_id := (OutboxEvent.heldBy_iff.mp h_held).1
      obtain rfl : e' = e := hS.event_eq he' h_mem
        ((congrArg ClaimedOutboxEvent.eventId h_of).symm.trans h_id.symm)
      have h_record := h_accepted (finalized_published h_status)
      rw [h_of, ClaimedOutboxEvent.kafkaRecord_ofRow] at h_record
      rwa [(OutboxEvent.finalized_sameMessage publisher now errorMessage e').kafkaRecord]
    · exact hP r hr h_status
  | _ => exact hP

theorem WorldMove.publishedAccepted (hS : Sound w) (hP : PublishedAccepted w)
    (h : WorldMove d w w') : PublishedAccepted w' := by
  -- a new event is not published
  have h_append : ∀ es : List OutboxEvent, (∀ e ∈ es, e.Initial) → w'.outbox = w.outbox ++ es →
      w'.accepted = w.accepted → PublishedAccepted w' := by
    intro es h_initial h_outbox h_accepted r hr h_status
    rw [h_outbox] at hr
    rw [h_accepted]
    rcases List.mem_append.mp hr with hr | hr
    · exact hP r hr h_status
    · rw [(h_initial r hr).pending] at h_status
      exact absurd h_status (by decide)
  cases h with
  | act p h =>
    cases h with
    | effect h => exact h.publishedAccepted hS hP
    | finish h =>
      cases h with
      | commitNotification row now eventId =>
        refine h_append _ (fun e he => ?_) rfl rfl
        exact List.mem_singleton.mp he ▸ ⟨rfl, ⟨rfl, rfl, rfl⟩, rfl⟩
      | commitRetry =>
        refine h_append _ (fun e he => ?_) rfl rfl
        split at he
        · exact absurd he List.not_mem_nil
        · exact List.mem_singleton.mp he ▸ ⟨rfl, ⟨rfl, rfl, rfl⟩, rfl⟩
  | env e h =>
    obtain ⟨clock, directory, rfl⟩ := env_apply h
    exact hP
  | abort p h => exact h ▸ hP

end Moves

/-! ### What a record says -/

/-- The decoder finds the event in its record. -/
theorem OutboxEvent.Written.decoded {floatOf : List Char → PyFloat} {e : OutboxEvent}
    (h : e.Written floatOf) (h_range : Datetime.InRange e.createdAt.instant) :
    ∃ message, decoded floatOf e.kafkaRecord.encoded = .valid message ∧ message.TellsOf e := by
  have h_type : (ClaimedOutboxEvent.ofRow e 0).eventType ∈ supportedEventTypes := by
    rcases h.eventType with h_eq | h_eq <;>
      simp [supportedEventTypes, ClaimedOutboxEvent.ofRow, h_eq]
  have h_message := decodeMessage_kafkaRecord h_type h.payload h.proper h_range
  rw [KafkaNotificationConsumer.decoded]
  refine ⟨_, by rw [OutboxEvent.kafkaRecord, h_message], rfl, rfl, rfl, rfl, ?_⟩
  exact Datetime.instant_ofInstant _

/-- What a payload names is what it holds under the key, in any order of the keys. -/
theorem namedNotification_sorted {fields : List (String × Json)}
    (h_nodup : (fields.map Prod.fst).Nodup) {id : UUID}
    (h_get : (Json.obj fields).get? "notification_id" = some (.str id.str)) :
    namedNotification (Json.obj fields).sorted = some id := by
  rw [namedNotification, Json.get?_sorted h_nodup, h_get]
  exact UUID.parse_str id

theorem namedNotification_requested (id : UUID) (sourceService : String) :
    namedNotification (Json.obj [("notification_id", .str id.str),
      ("source_service", .str sourceService)]).sorted = some id := by
  refine namedNotification_sorted ?_ rfl
  exact (by decide : ["notification_id", "source_service"].Nodup)

theorem namedNotification_replay (id : UUID) (deliveryIds : List UUID) (replayId : UUID) :
    namedNotification (Json.obj [
      ("delivery_ids", .arr (deliveryIds.map fun deliveryId => .str deliveryId.str)),
      ("notification_id", .str id.str), ("replay_id", .str replayId.str)]).sorted = some id := by
  refine namedNotification_sorted ?_ rfl
  exact (by decide : ["delivery_ids", "notification_id", "replay_id"].Nodup)

/-! ### Whole runs -/

section Runs

variable {d : Deployment} {clock : Instant} {directory : Directory} {ls ls' : Schedule}
  {c c' : State}

/-- The events stay, with their messages. -/
theorem Deployment.Run.outbox_messages (h : d.Run clock directory ls c)
    (h' : surroundings.run c ls' = some c') :
    Grows OutboxEvent.SameMessage c.world.outbox c'.world.outbox :=
  h.along (S := fun w w' => Grows OutboxEvent.SameMessage w.outbox w'.outbox)
    (fun _ => .refl .refl _) (fun h h' => h.trans .trans h')
    (fun _ _ _ hM => WorldMove.outbox_messages hM) h'

theorem Deployment.Run.publishedAccepted (h : d.Run clock directory ls c) :
    PublishedAccepted c.world :=
  h.always (by simp [PublishedAccepted, World.initial]) fun _ _ hS hP hM =>
    hM.publishedAccepted hS hP

/-- **A record of the topic is the record of an event.** -/
theorem Deployment.Run.accepted_origin (h : d.Run clock directory ls c) {record : KafkaRecord}
    (h_mem : record ∈ c.world.accepted) : ∃ e ∈ c.world.outbox, e.kafkaRecord = record := by
  obtain ⟨ls₀, l, ls₁, c₀, c₁, rfl, h₀, h₁, h_rest, h_old, h_new⟩ :=
    Machine.exists_moment (P := fun c : State => record ∈ c.world.accepted)
      (by simp [Deployment.start, World.initial]) h h_mem
  cases l with
  | env e =>
    obtain ⟨w, h_env, rfl⟩ := Machine.step_env h₁
    obtain ⟨clock, directory, rfl⟩ := env_apply h_env
    exact absurd h_new h_old
  | crash p =>
    obtain ⟨_, _, _, -, rfl⟩ := Machine.step_crash h₁
    exact absurd h_new h_old
  | run p i =>
    -- the process has read the row in this step or in an earlier one, and the row has stayed
    have h_read : ∃ ls₂ ls₃ c₂, ls₀ ++ .run p i :: ls₁ = ls₂ ++ ls₃ ∧
        d.Run clock directory ls₂ c₂ ∧ ∃ e ∈ c₂.world.outbox, e.kafkaRecord = record := by
      rcases Machine.awaited h₀ rfl (Call.program_awaits_row _) h₁ with
        ⟨ls₂, j, ls₃, c₂, c₃, rfl, h₂, -, h_row⟩ | h_row | h_not
      · exact ⟨ls₂, _, c₂, List.append_assoc .., h₂, h_row⟩
      · exact ⟨ls₀, _, c₀, rfl, h₀, h_row⟩
      · exact absurd (h_not h_new) h_old
    obtain ⟨ls₂, ls₃, c₂, h_split, h₂, e, he, h_record⟩ := h_read
    rw [h_split] at h
    obtain ⟨e', he', h_same⟩ := (h₂.outbox_messages (Machine.run_rest h h₂)).mem he
    exact ⟨e', he', h_same.kafkaRecord.trans h_record⟩

theorem mem_eventsOf {e : OutboxEvent} (he : e ∈ c.world.outbox) :
    (e.eventKey, e.aggregateId, e.payload) ∈ c.world.eventsOf e.eventType :=
  List.mem_filterMap.mpr ⟨e, he, if_pos rfl⟩

/-- Every event names a committed notification. -/
theorem Deployment.Run.event_names (h : d.Run clock directory ls c) {e : OutboxEvent}
    (he : e ∈ c.world.outbox) :
    ∃ n ∈ c.world.notifications.committed, namedNotification e.payload.sorted = some n.id := by
  have h_mem := mem_eventsOf he
  have h_written : e.Written fun _ => .nan := h.outbox_written e he
  rcases h_written.eventType with h_type | h_type
  · rw [h_type, h.created.events] at h_mem
    obtain ⟨n, hn, h_message⟩ := List.mem_map.mp h_mem
    refine ⟨n, hn, ?_⟩
    rw [← (Prod.mk.inj (Prod.mk.inj h_message).2).2]
    exact namedNotification_requested n.id n.sourceService
  · -- a replay names the notification of the deliveries it has moved
    obtain ⟨replays, hA⟩ := h.audited
    rw [h_type, hA.events] at h_mem
    obtain ⟨x, hx, h_message⟩ := List.mem_map.mp h_mem
    obtain ⟨h_some, -, h_rows⟩ := hA.rows x hx
    obtain ⟨deliveryId, h_id⟩ := List.exists_mem_of_ne_nil _ h_some
    obtain ⟨r, hr, -, h_notification⟩ := h_rows deliveryId h_id
    obtain ⟨n, hn, h_n, -⟩ := h.fanoutRows.channels r (Table.mem_rows_of_committed hr)
    refine ⟨n, hn, ?_⟩
    rw [← (Prod.mk.inj (Prod.mk.inj h_message).2).2, h_n, h_notification]
    exact namedNotification_replay x.notificationId x.deliveryIds x.replayId

/-- **The topic holds nothing but events.** In every state of every run, with any claims lost and
any replies of the broker: what the broker has accepted decodes, tells of an event in the outbox
and names a committed notification. The records of published events are among it. -/
theorem acceptedRecords_decoded (floatOf : List Char → PyFloat) (h : d.Run clock directory ls c)
    (h_range : ∀ e ∈ c.world.outbox, Datetime.InRange e.createdAt.instant) :
    (∀ record ∈ c.world.accepted, ∃ e ∈ c.world.outbox, record = e.kafkaRecord ∧
      ∃ message, decoded floatOf record.encoded = .valid message ∧ message.TellsOf e ∧
        ∃ n ∈ c.world.notifications.committed, namedNotification message.payload = some n.id) ∧
    ∀ e ∈ c.world.outbox, e.status = .published → e.kafkaRecord ∈ c.world.accepted := by
  refine ⟨fun record h_record => ?_, h.publishedAccepted⟩
  obtain ⟨e, he, rfl⟩ := h.accepted_origin h_record
  obtain ⟨message, h_decoded, h_tells⟩ := (h.outbox_written e he).decoded (h_range e he)
  refine ⟨e, he, rfl, message, h_decoded, h_tells, ?_⟩
  rw [h_tells.payload]
  exact h.event_names he

end Runs

/-- A request, and two polls of a publisher. -/
def twicePublished : Deployment := .ofCalls id [
  .createNotification ⟨3600000000⟩ "orders" (.toAll [.web] postInit_web) none,
  .publishDueEvents twicePublisher 10,
  .publishDueEvents twicePublisher 10]

/-- The broker accepts the record, but does not answer in time; the next poll sends it again. -/
def twicePublishedSchedule : Schedule := [
  .run 0 (.time (.ofInstant 0)), .run 0 .go, .run 0 (.fresh 10), .run 0 (.fresh 11),
  .run 1 (.time (.ofInstant 5)), .run 1 (.claim [] [31]), .run 1 (.nack true "timeout"), .run 1 .go,
  .run 2 (.time (.ofInstant 30000005)), .run 2 (.claim [] [32]), .run 2 .ack, .run 2 .go]

theorem acceptedRecords_decoded_twice :
    ∃ c, twicePublished.Run 0 (.ofUsers [1] (by decide)) twicePublishedSchedule c ∧
      c.world.accepted.length = 2 ∧ ∀ record ∈ c.world.accepted, ∃ e ∈ c.world.outbox,
        ∃ message, decoded (fun _ => .nan) record.encoded = .valid message ∧ message.TellsOf e := by
  obtain ⟨c, h_run, h_c⟩ := twicePublished.exists_run 0 (.ofUsers [1] (by decide))
    twicePublishedSchedule (fun c => decide (c.world.accepted.length = 2 ∧
      ∀ e ∈ c.world.outbox, Datetime.InRange e.createdAt.instant)) (by decide +kernel)
  obtain ⟨h_length, h_range⟩ := of_decide_eq_true h_c
  refine ⟨c, h_run, h_length, fun record h_record => ?_⟩
  obtain ⟨e, he, -, message, h_decoded, h_tells, -⟩ :=
    (acceptedRecords_decoded (fun _ => .nan) h_run h_range).1 record h_record
  exact ⟨e, he, message, h_decoded, h_tells⟩

end NotificationBroker
