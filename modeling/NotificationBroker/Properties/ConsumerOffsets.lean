import NotificationBroker.Framework.RelyGuarantee
import NotificationBroker.Workers.KafkaConsumer
import NotificationBroker.Workers.OutboxPublisher

/-!
# Committed offsets and lost records

A committed offset promises that the records before it need not be consumed
again. `NoLoss` states the promise: each of them has been recorded as processed,
or published to the dead-letter topic. A poll cycle that raises keeps the offset
it has not committed, but the next cycle of the same consumer polls from where
the position is, past the record on which the cycle has raised, and its first
commit commits that position (`not_consumerNeverLoses`).

`ConsumerStep` lists what the consumer does, with what it knows: it polls only
once the record in hand is settled or its cycle has failed, and commits only a
record that is settled. So the records before the position are settled, in hand,
or failed (`Accounted`), and a run loses a record exactly if it commits while a
record that failed is still unsettled.
-/

namespace NotificationBroker

open Interleave Python

namespace Topic

variable (topic : Topic)

/-- The record has been recorded as processed, or published as a dead letter. -/
def Settled (w : ConsumerWorld) (x : RecordOffset) : Prop :=
  match topic.decode (topic.log x.partition x.offset) with
  | .ok (.valid message) => message.eventId ∈ w.processed
  | .ok (.invalid _) => x ∈ w.deadLettered
  | .error _ => False

instance (w : ConsumerWorld) : DecidablePred (topic.Settled w) := fun x => by
  unfold Settled; split <;> infer_instance

/-- The committed offsets do not pass a record that is not settled, counted from
the offsets the consumer has started with. -/
def NoLoss (offsets : List ℕ) (w : ConsumerWorld) : Prop :=
  ∀ (x : RecordOffset) (first committed : ℕ), offsets[x.partition]? = some first →
    w.committed[x.partition]? = some committed → first ≤ x.offset → x.offset < committed →
    topic.Settled w x

/-- A commit leaves no record behind on which an earlier turn has raised. -/
def CommitsSettled (w w' : ConsumerWorld) : Prop :=
  w'.committed ≠ w.committed → ∀ x ∈ w.failed, topic.Settled w x

instance (w w' : ConsumerWorld) : Decidable (topic.CommitsSettled w w') := by
  unfold CommitsSettled; infer_instance

end Topic

/-- No record is lost, whatever the records, the decoder, the batch size and the
failures. -/
def ConsumerNeverLoses : Prop :=
  ∀ (topic : Topic) (batchSize cycles : ℕ) (offsets : List ℕ) (processed : List UUID)
    (ls : List (Label Unit CallResult Empty)) (c : Config Unit CallResult ConsumerWorld Unit),
    consumerMachine.run (topic.start batchSize cycles offsets processed) ls = some c →
    topic.NoLoss offsets c.world

/-- The bytes of an ASCII text. -/
def ascii (s : String) : List UInt8 :=
  s.toList.map fun c => UInt8.ofNat c.toNat

/-- The record the publisher sends for the requested event of a notification. -/
def requestedRecord (eventId notificationId : UUID) : KafkaRawMessage where
  key := some (ascii notificationId.str)
  value := ascii (OutboxPublisher.eventEnvelope ⟨eventId, 0, "notifications.requests",
    "notification.requested", notificationId.str,
    .obj [("notification_id", .str notificationId.str)], .ofInstant 0⟩).text

/-- What the decoder makes of it. -/
def requestedMessage (eventId notificationId : UUID) : NotificationKafkaMessage where
  key := notificationId.str
  eventId := eventId
  eventType := "notification.requested"
  occurredAt := .ofInstant 0
  payload := .obj [("notification_id", .str notificationId.str)]
  rawMessage := requestedRecord eventId notificationId

/-- The requested events of notifications 10 and 11, on one partition. -/
def twoRecords : Topic where
  log _ offset := if offset = 0 then requestedRecord 1 10 else requestedRecord 2 11
  decode raw :=
    if raw.key = some (ascii (UUID.str 10)) then .ok (.valid (requestedMessage 1 10))
    else if raw.key = some (ascii (UUID.str 11)) then .ok (.valid (requestedMessage 2 11))
    else .ok (.invalid ⟨raw, "invalid_json", "Kafka notification value must be valid JSON"⟩)

/-- The handler raises on the first record; the next cycle goes on with the
second and commits. -/
def failThenCommit : List (Label Unit CallResult Empty) := [
  .run () (.record 0), .run () .succeeds, .run () (.raises false), .run () .succeeds,
  .run () (.record 0), .run () .succeeds, .run () .succeeds, .run () .succeeds, .run () .succeeds]

/-- The second cycle's commit passes the first record, which nobody has handled. -/
theorem not_consumerNeverLoses : ¬ ConsumerNeverLoses := by
  intro h_claim
  have h_replay : (consumerMachine.run (twoRecords.start 1 2 [0] []) failThenCommit).map (fun c =>
      decide (c.world.committed = [2] ∧ ¬ twoRecords.Settled c.world ⟨0, 0⟩)) = some true := by
    decide +kernel
  obtain ⟨c, h_run, h_end⟩ := Option.map_eq_some_iff.mp h_replay
  obtain ⟨h_committed, h_lost⟩ := of_decide_eq_true h_end
  refine h_lost (h_claim twoRecords 1 2 [0] [] failThenCommit c h_run ⟨0, 0⟩ 0 2 rfl ?_ le_rfl
    (by decide))
  rw [h_committed]
  rfl

/-! ### What the consumer does -/

/-- The record in hand, if there is one, is settled, or its turn has raised. -/
def Topic.Done (topic : Topic) (w : ConsumerWorld) : Prop :=
  ∀ x, w.inHand = some x → topic.Settled w x ∨ x ∈ w.failed

/-- The effects of the consumer's actions. -/
inductive ConsumerStep (topic : Topic) (w : ConsumerWorld) : ConsumerWorld → Prop
  | stay : ConsumerStep topic w w
  | poll (partition offset : ℕ) (h_position : w.position[partition]? = some offset)
      (h_done : topic.Done w) :
      ConsumerStep topic w { w with
        position := w.position.set partition (offset + 1)
        inHand := some ⟨partition, offset⟩ }
  | markProcessed (eventId : UUID) :
      ConsumerStep topic w { w with processed := w.processed ++ [eventId] }
  | deadLetter : ConsumerStep topic w { w with
      deadLettered := w.deadLettered ++ w.inHand.toList }
  | commit (h_settled : ∀ x, w.inHand = some x → topic.Settled w x) :
      ConsumerStep topic w { w with committed := w.position, inHand := none }
  | fail : ConsumerStep topic w { w with failed := w.failed ++ w.inHand.toList }

variable {topic : Topic} {w w' : ConsumerWorld}

/-- A settled record stays settled. -/
theorem Topic.Settled.mono {x : RecordOffset} (h : topic.Settled w x)
    (h_processed : w.processed ⊆ w'.processed) (h_letters : w.deadLettered ⊆ w'.deadLettered) :
    topic.Settled w' x := by
  unfold Topic.Settled at h ⊢
  split at h
  · exact h_processed h
  · exact h_letters h
  · exact h

theorem ConsumerStep.settled (h : ConsumerStep topic w w') {x : RecordOffset}
    (h_settled : topic.Settled w x) : topic.Settled w' x := by
  refine h_settled.mono ?_ ?_ <;> cases h <;>
    first | exact List.Subset.refl _ | exact List.subset_append_left _ _

/-! ### The worker does nothing else -/

theorem consumer_discipline (topic : Topic) :
    (Contract.solo (ConsumerStep topic)).Discipline consumerMachine :=
  Contract.solo_discipline _ fun e => e.elim

/-- The program `m`, run from `w`, has the effects of `ConsumerStep`, and `P`
holds if it returns. Nothing is asked of a part of a cycle that raises. -/
def Runs {α : Type} (topic : Topic) (m : ConsumerProgram α) (P : α → ConsumerWorld → Prop)
    (w : ConsumerWorld) : Prop :=
  (Contract.solo (ConsumerStep topic)).Safe () (fun r w => ∀ a, r = .ok a → P a w) m w

theorem runs_return {α : Type} {P : α → ConsumerWorld → Prop} {a : α} (h : P a w) :
    Runs topic (pure a) P w := fun w' hR _ b h_b => by
  obtain rfl : w = w' := hR
  obtain rfl := Except.ok.inj h_b
  exact h

/-- A call of a collaborator, followed by `g`. -/
theorem runs_attempt {α β : Type} {f : Unit → CallResult → ConsumerWorld →
      Option (Except PyError α × ConsumerWorld)} {g : α → ConsumerProgram β}
    {P : β → ConsumerWorld → Prop}
    (h : ∀ i r w', f () i w = some (r, w') → ConsumerStep topic w w' ∧
      ∀ a, r = .ok a → Runs topic (g a) P w') :
    Runs topic (ExceptT.mk (Prog.act f .ret) >>= g) P w := by
  refine Contract.Safe.attempt fun w₁ hR _ => ⟨trivial, fun i r w₂ hf => ?_⟩
  obtain rfl : w = w₁ := hR
  obtain ⟨h_step, h_rest⟩ := h i r w₂ hf
  refine ⟨h_step, ?_⟩
  cases r with
  | ok a => exact h_rest a rfl
  | error e => exact fun w₃ _ _ a h_a => absurd h_a (by simp)

theorem runs_bind {α β : Type} {m : ConsumerProgram α} {g : α → ConsumerProgram β}
    {P : β → ConsumerWorld → Prop} (h : Runs topic m (fun a => Runs topic (g a) P) w) :
    Runs topic (m >>= g) P w := by
  refine Contract.Safe.bind (consumer_discipline topic) trivial (h.mono fun r w' _ h_rest => ?_)
  cases r with
  | ok a => exact h_rest a rfl
  | error e => exact fun _ _ _ b h_b => absurd h_b (by simp)

theorem runs_call {β : Type} {f : ConsumerWorld → ConsumerWorld} {g : Unit → ConsumerProgram β}
    {P : β → ConsumerWorld → Prop} (h_step : ConsumerStep topic w (f w))
    (h : Runs topic (g ()) P (f w)) : Runs topic (call f >>= g) P w := by
  refine runs_attempt fun i r w' hf => ?_
  cases i with
  | succeeds =>
    simp only [Option.some.injEq, Prod.mk.injEq] at hf
    obtain ⟨rfl, rfl⟩ := hf
    exact ⟨h_step, fun _ _ => h⟩
  | raises effect =>
    simp only [Option.some.injEq, Prod.mk.injEq] at hf
    obtain ⟨rfl, rfl⟩ := hf
    refine ⟨?_, by simp⟩
    -- a call that raises may have had its effect
    cases effect with
    | false => exact .stay
    | true => exact h_step
  | record partition => exact absurd hf (by simp)

/-- Committing a settled record and going on to the next. -/
theorem runs_commit {handled : Handled} (h : ∀ x, w.inHand = some x → topic.Settled w x) :
    Runs topic (do topic.ports.commit; return handled) (fun _ => topic.Done) w :=
  runs_call (.commit h) (runs_return fun x h_x => absurd h_x (by simp))

/-- One turn of the loop: it commits the record only once it is settled. -/
theorem runs_handleMessage {polled : Polled} {x : RecordOffset} (h_hand : w.inHand = some x)
    (h_decode : topic.decode (topic.log x.partition x.offset) = .ok polled) :
    Runs topic (NotificationConsumerWorker.handleMessage (m := ConsumerProgram) topic.ports polled)
      (fun _ => topic.Done) w := by
  cases polled with
  | invalid message =>
    -- a record that is not valid is settled by its dead letter
    refine runs_call .deadLetter (runs_commit fun y h_y => ?_)
    obtain rfl : x = y := Option.some.inj (h_hand.symm.trans h_y)
    simp [Topic.Settled, h_decode, h_hand]
  | valid message =>
    -- looking the event up in the processed ones
    refine runs_attempt fun i seen w' hf => ?_
    cases i with
    | record partition => exact absurd hf (by simp)
    | raises effect =>
      simp only [Option.some.injEq, Prod.mk.injEq] at hf
      obtain ⟨rfl, rfl⟩ := hf
      exact ⟨.stay, by simp⟩
    | succeeds =>
      simp only [Option.some.injEq, Prod.mk.injEq] at hf
      obtain ⟨rfl, rfl⟩ := hf
      refine ⟨.stay, fun seen h_seen => ?_⟩
      obtain rfl := Except.ok.inj h_seen
      by_cases h_seen : message.eventId ∈ w.processed
      · rw [decide_eq_true h_seen]
        -- processed before: the offset is committed at once
        refine runs_commit fun y h_y => ?_
        obtain rfl : x = y := Option.some.inj (h_hand.symm.trans h_y)
        simp [Topic.Settled, h_decode, h_seen]
      · rw [decide_eq_false h_seen]
        -- the handler runs, and it may have committed its transaction even if it raises
        refine runs_call .stay (runs_attempt fun i r w' hf => ?_)
        cases i with
        | record partition => exact absurd hf (by simp)
        | raises effect =>
          simp only [Option.some.injEq, Prod.mk.injEq] at hf
          obtain ⟨rfl, rfl⟩ := hf
          refine ⟨?_, by simp⟩
          split
          · exact .markProcessed message.eventId
          · exact .stay
        | succeeds =>
          simp only [id_eq, h_seen, if_false, Option.some.injEq, Prod.mk.injEq] at hf
          obtain ⟨rfl, rfl⟩ := hf
          -- only now the offset is committed, when the event has been processed
          refine ⟨.markProcessed message.eventId, fun _ _ => runs_commit fun y h_y => ?_⟩
          obtain rfl : x = y := Option.some.inj (h_hand.symm.trans h_y)
          simp [Topic.Settled, h_decode]

/-- A record that is polled is in hand, and was decoded. -/
theorem runs_consumeOne (h_done : topic.Done w) :
    Runs topic topic.consumeOne (fun polled w => match polled with
      | none => topic.Done w
      | some polled => ∃ x, w.inHand = some x ∧
          topic.decode (topic.log x.partition x.offset) = .ok polled) w := by
  refine runs_attempt fun i r w' hf => ?_
  cases i with
  | raises effect =>
    simp only [Option.some.injEq, Prod.mk.injEq] at hf
    obtain ⟨rfl, rfl⟩ := hf
    exact ⟨.stay, by simp⟩
  | succeeds =>
    simp only [Option.some.injEq, Prod.mk.injEq] at hf
    obtain ⟨rfl, rfl⟩ := hf
    refine ⟨.stay, fun raw h_raw => ?_⟩
    -- the poll timed out: there is no record in hand
    obtain rfl := Except.ok.inj h_raw
    exact runs_return h_done
  | record partition =>
    dsimp only at hf
    split at hf
    next offset h_position =>
      simp only [Option.some.injEq, Prod.mk.injEq] at hf
      obtain ⟨rfl, rfl⟩ := hf
      -- the record at the position is in hand, and the position moves on
      refine ⟨.poll partition offset h_position h_done, fun raw h_raw => ?_⟩
      obtain rfl := Except.ok.inj h_raw
      dsimp only
      split
      next polled h_decode => exact runs_return ⟨⟨partition, offset⟩, rfl, h_decode⟩
      -- decoding raises
      next e _ => exact fun _ _ _ _ h => absurd h (by simp)
    next => exact absurd hf (by simp)

/-- By induction on the turns that are left. -/
theorem runs_loop (turns : ℕ) (counts : NotificationConsumerResult) (h_done : topic.Done w) :
    Runs topic (NotificationConsumerWorker.loop (m := ConsumerProgram) topic.ports turns counts)
      (fun _ => topic.Done) w := by
  induction turns generalizing w counts with
  | zero => exact runs_return h_done
  | succ turns ih =>
    refine runs_bind ((runs_consumeOne h_done).mono fun r w₁ _ h₁ polled h_polled => ?_)
    have h₂ := h₁ polled h_polled
    cases polled with
    | none => exact runs_return h₂
    | some polled =>
      obtain ⟨x, h_hand, h_decode⟩ := h₂
      exact runs_bind ((runs_handleMessage h_hand h_decode).mono
        fun r w₂ _ h_rest handled h_handled => ih _ (h_rest handled h_handled))

/-- A cycle ends with the record in hand settled, or noted as failed. -/
theorem runs_pollCycle (batchSize : ℕ) (h_done : topic.Done w) :
    (Contract.solo (ConsumerStep topic)).Safe () (fun _ => topic.Done)
      (topic.pollCycle batchSize) w := by
  refine Contract.Safe.bind (consumer_discipline topic) trivial
    ((runs_loop batchSize _ h_done).mono fun r w₁ _ h_rest => ?_)
  cases r with
  | ok result => exact fun w₂ hR _ => hR ▸ h_rest result rfl
  | error e =>
    intro w₂ hR _
    obtain rfl : w₁ = w₂ := hR
    refine ⟨trivial, fun i r w₃ hf => ?_⟩
    simp only [Option.some.injEq, Prod.mk.injEq] at hf
    obtain ⟨-, rfl⟩ := hf
    refine ⟨.fail, fun w₄ hR _ => ?_⟩
    obtain rfl := hR
    exact fun x h_x => .inr (List.mem_append_right _ (by rw [h_x]; simp))

theorem runs_pollCycles (batchSize cycles : ℕ) (h_done : topic.Done w) :
    (Contract.solo (ConsumerStep topic)).Safe () (fun _ => topic.Done)
      (topic.pollCycles batchSize cycles) w := by
  induction cycles generalizing w with
  | zero => exact fun w' hR _ => hR ▸ h_done
  | succ cycles ih =>
    exact Contract.Safe.bind (consumer_discipline topic) trivial
      ((runs_pollCycle batchSize h_done).mono fun _ w' _ h_done' => ih h_done')

theorem consumer_verified (topic : Topic) (batchSize cycles : ℕ) (offsets : List ℕ)
    (processed : List UUID) :
    (topic.start batchSize cycles offsets processed).Verified
      (Contract.solo (ConsumerStep topic)) (fun _ _ => topic.Done) where
  inv := trivial
  safe _ m hm := by
    obtain rfl := Option.some.inj hm
    exact runs_pollCycles batchSize cycles fun x h_x => absurd h_x (by simp [Topic.start,
      ConsumerWorld.initial])
  crashed _ h := absurd h (by simp [Topic.start])

/-! ### Every record before the position is accounted for -/

/-- The records before the position, counted from where the consumer has
started, are settled, in hand, or failed; and every failed record is before it. -/
structure Accounted (topic : Topic) (offsets : List ℕ) (w : ConsumerWorld) : Prop where
  record : ∀ (x : RecordOffset) (first position : ℕ), offsets[x.partition]? = some first →
    w.position[x.partition]? = some position → first ≤ x.offset → x.offset < position →
    topic.Settled w x ∨ w.inHand = some x ∨ x ∈ w.failed
  before : ∀ x, w.inHand = some x ∨ x ∈ w.failed →
    ∃ first position, offsets[x.partition]? = some first ∧
      w.position[x.partition]? = some position ∧ first ≤ x.offset ∧ x.offset < position
  started : ∀ partition position : ℕ, w.position[partition]? = some position →
    ∃ first, offsets[partition]? = some first ∧ first ≤ position

theorem ConsumerStep.accounted {offsets : List ℕ} (h : ConsumerStep topic w w')
    (hA : Accounted topic offsets w) : Accounted topic offsets w' := by
  cases h with
  | stay => exact hA
  | markProcessed eventId =>
    exact ⟨fun x first position h₁ h₂ h₃ h₄ => (hA.record x first position h₁ h₂ h₃ h₄).imp_left
      (ConsumerStep.markProcessed eventId).settled, hA.before, hA.started⟩
  | deadLetter =>
    exact ⟨fun x first position h₁ h₂ h₃ h₄ => (hA.record x first position h₁ h₂ h₃ h₄).imp_left
      ConsumerStep.deadLetter.settled, hA.before, hA.started⟩
  | commit h_settled =>
    refine ⟨fun x first position h₁ h₂ h₃ h₄ => ?_, fun x h_x => ?_, hA.started⟩
    · rcases hA.record x first position h₁ h₂ h₃ h₄ with h | h | h
      · exact .inl h
      · exact .inl (h_settled x h)
      · exact .inr (.inr h)
    · exact hA.before x (h_x.elim (fun h => absurd h (by simp)) .inr)
  | fail =>
    refine ⟨fun x first position h₁ h₂ h₃ h₄ => ?_, fun x h_x => ?_, hA.started⟩
    · rcases hA.record x first position h₁ h₂ h₃ h₄ with h | h | h
      · exact .inl h
      · exact .inr (.inl h)
      · exact .inr (.inr (List.mem_append_left _ h))
    · refine hA.before x (h_x.elim .inl fun h => ?_)
      rcases List.mem_append.mp h with h | h
      · exact .inr h
      · exact .inl (by simpa using h)
  | poll partition offset h_position h_done =>
    obtain ⟨h_lt, -⟩ := List.getElem?_eq_some_iff.mp h_position
    have h_step : ConsumerStep topic w _ := .poll partition offset h_position h_done
    refine ⟨fun x first position h₁ h₂ h₃ h₄ => ?_, fun x h_x => ?_, fun other position h₁ => ?_⟩
    · by_cases h_same : x.partition = partition
      · dsimp only at h₂
        rw [h_same, List.getElem?_set_self h_lt, Option.some.injEq] at h₂
        by_cases h_new : x.offset = offset
        · exact .inr (.inl (congrArg some (by cases x; simp_all)))
        · -- an earlier record of the partition: the one that was in hand is done
          rcases hA.record x first offset h₁ (h_same ▸ h_position) h₃ (by omega) with h | h | h
          · exact .inl (h_step.settled h)
          · exact (h_done x h).elim (fun h => .inl (h_step.settled h)) fun h => .inr (.inr h)
          · exact .inr (.inr h)
      · dsimp only at h₂
        rw [List.getElem?_set_ne (Ne.symm h_same)] at h₂
        rcases hA.record x first position h₁ h₂ h₃ h₄ with h | h | h
        · exact .inl (h_step.settled h)
        · exact (h_done x h).elim (fun h => .inl (h_step.settled h)) fun h => .inr (.inr h)
        · exact .inr (.inr h)
    · rcases h_x with h_x | h_x
      · obtain rfl := Option.some.inj h_x
        obtain ⟨first, h_first, h_le⟩ := hA.started partition offset h_position
        exact ⟨first, offset + 1, h_first, List.getElem?_set_self h_lt, h_le, Nat.lt_succ_self _⟩
      · obtain ⟨first, position, h₁, h₂, h₃, h₄⟩ := hA.before x (.inr h_x)
        by_cases h_same : x.partition = partition
        · have h_position' : position = offset :=
            Option.some.inj (h₂.symm.trans (h_same ▸ h_position))
          exact ⟨first, offset + 1, h₁, by rw [h_same]; exact List.getElem?_set_self h_lt, h₃,
            by omega⟩
        · exact ⟨first, position, h₁, by rw [List.getElem?_set_ne (Ne.symm h_same)]; exact h₂, h₃,
            h₄⟩
    · by_cases h_same : other = partition
      · dsimp only at h₁
        rw [h_same, List.getElem?_set_self h_lt, Option.some.injEq] at h₁
        obtain ⟨first, h_first, h_le⟩ := hA.started partition offset h_position
        exact ⟨first, h_same ▸ h_first, by omega⟩
      · dsimp only at h₁
        rw [List.getElem?_set_ne (Ne.symm h_same)] at h₁
        exact hA.started other position h₁

theorem accounted_initial (offsets : List ℕ) (processed : List UUID) :
    Accounted topic offsets (.initial offsets processed) where
  record x first position h₁ h₂ h₃ h₄ := by
    obtain rfl : first = position := Option.some.inj (h₁.symm.trans h₂)
    omega
  before x h := by simp [ConsumerWorld.initial] at h
  started partition position h := ⟨position, h, le_rfl⟩

/-- A commit that leaves no failed record behind passes settled records only. -/
theorem ConsumerStep.noLoss {offsets : List ℕ} (h : ConsumerStep topic w w')
    (hA : Accounted topic offsets w) (h_meet : topic.CommitsSettled w w')
    (h_loss : topic.NoLoss offsets w) : topic.NoLoss offsets w' := by
  intro x first committed h₁ h₂ h₃ h₄
  refine h.settled ?_
  cases h with
  | commit h_settled =>
    by_cases h_same : w.position = w.committed
    · exact h_loss x first committed h₁ (h_same ▸ h₂) h₃ h₄
    · rcases hA.record x first committed h₁ h₂ h₃ h₄ with h | h | h
      · exact h
      · exact h_settled x h
      · exact h_meet h_same x h
  | _ => exact h_loss x first committed h₁ h₂ h₃ h₄

/-- A commit that leaves a failed record behind loses it. -/
theorem ConsumerStep.commitsSettled {offsets : List ℕ} (h : ConsumerStep topic w w')
    (hA : Accounted topic offsets w) (h_loss : topic.NoLoss offsets w') :
    topic.CommitsSettled w w' := by
  intro h_changed x h_x
  cases h with
  | commit h_settled =>
    obtain ⟨first, position, h₁, h₂, h₃, h₄⟩ := hA.before x (.inr h_x)
    exact h_loss x first position h₁ h₂ h₃ h₄
  | _ => exact absurd rfl h_changed

/-- **A run loses no record exactly if it never commits while a record is
unsettled on which an earlier turn has raised.** -/
theorem noLoss_iff_commitsSettled {batchSize cycles : ℕ} {offsets : List ℕ}
    {processed : List UUID} {ls : List (Label Unit CallResult Empty)}
    {c : Config Unit CallResult ConsumerWorld Unit}
    (h : consumerMachine.run (topic.start batchSize cycles offsets processed) ls = some c) :
    (∀ ls₀ ls₁ c₀, ls = ls₀ ++ ls₁ →
      consumerMachine.run (topic.start batchSize cycles offsets processed) ls₀ = some c₀ →
      topic.NoLoss offsets c₀.world) ↔
    consumerMachine.StepsMeet topic.CommitsSettled (topic.start batchSize cycles offsets processed)
      ls := by
  have h_verified := consumer_verified topic batchSize cycles offsets processed
  have h_discipline := consumer_discipline topic
  -- every move of a run is a step of the consumer: nothing else writes its world
  have h_move : ∀ {w w' : ConsumerWorld},
      Move (Contract.solo (ConsumerStep topic)) consumerMachine w w' → ConsumerStep topic w w' := by
    intro w w' hM
    cases hM with
    | act p h => exact h
    | env e _ => exact e.elim
    | abort p h => exact h ▸ .stay
  have h_accounted : ∀ {ls₀ c₀},
      consumerMachine.run (topic.start batchSize cycles offsets processed) ls₀ = some c₀ →
      Accounted topic offsets c₀.world := fun h_run =>
    h_verified.invariant h_discipline (fun w w' _ hA hM _ => (h_move hM).accounted hA)
      (accounted_initial offsets processed) h_run (Machine.stepsMeet_true _)
  constructor
  · intro h_all
    -- every commit of the run is between two states of it, and nothing is lost in the second
    refine Machine.stepsMeet_of_forall fun ls₀ l ls₁ c₀ c₁ h_split h_run h_step => ?_
    have h_run₁ : consumerMachine.run (topic.start batchSize cycles offsets processed)
        (ls₀ ++ [l]) = some c₁ :=
      Machine.run_trans h_run (Option.bind_eq_some_iff.mpr ⟨c₁, h_step, rfl⟩)
    have hM := (h_verified.run h_discipline h_run).move h_discipline h_step
    exact (h_move hM).commitsSettled (h_accounted h_run)
      (h_all (ls₀ ++ [l]) ls₁ c₁ (by simp [h_split]) h_run₁)
  · rintro h_meet ls₀ ls₁ c₀ rfl h_run
    obtain ⟨h_meet₀, -⟩ := Machine.stepsMeet_append h_run h_meet
    -- the invariant is that nothing is lost, together with the account of what has been polled
    refine (h_verified.invariant h_discipline
      (P := fun w => Accounted topic offsets w ∧ topic.NoLoss offsets w)
      (fun w w' _ hP hM h_C => ⟨(h_move hM).accounted hP.1, (h_move hM).noLoss hP.1 h_C hP.2⟩)
      ⟨accounted_initial offsets processed, fun x first committed h₁ h₂ h₃ h₄ => ?_⟩ h_run
      h_meet₀).2
    obtain rfl : first = committed := Option.some.inj (h₁.symm.trans h₂)
    omega

/-- The handler has committed when its turn raises, so that the next cycle's commit passes a record
that is settled. -/
theorem noLoss_late_raise :
    ∃ c, consumerMachine.run (twoRecords.start 1 2 [0] []) [
        .run () (.record 0), .run () .succeeds, .run () .succeeds, .run () (.raises true),
        .run () .succeeds,
        .run () (.record 0), .run () .succeeds, .run () .succeeds, .run () .succeeds,
        .run () .succeeds] = some c ∧
      c.world.failed = [⟨0, 0⟩] ∧ c.world.committed = [2] ∧ twoRecords.NoLoss [0] c.world := by
  have h_replay : (consumerMachine.run (twoRecords.start 1 2 [0] []) [
      .run () (.record 0), .run () .succeeds, .run () .succeeds, .run () (.raises true),
      .run () .succeeds,
      .run () (.record 0), .run () .succeeds, .run () .succeeds, .run () .succeeds,
      .run () .succeeds]).map (fun c =>
        decide (c.world.failed = [⟨0, 0⟩] ∧ c.world.committed = [2])) = some true := by
    decide +kernel
  obtain ⟨c, h_run, h_c⟩ := Option.map_eq_some_iff.mp h_replay
  obtain ⟨h_failed, h_committed⟩ := of_decide_eq_true h_c
  refine ⟨c, h_run, h_failed, h_committed, ?_⟩
  exact (noLoss_iff_commitsSettled h_run).mpr (by decide +kernel) _ [] c (List.append_nil _).symm
    h_run

end NotificationBroker
