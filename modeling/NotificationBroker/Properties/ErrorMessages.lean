import NotificationBroker.Framework.Keeping
import NotificationBroker.Properties.EmailOutcomes
import NotificationBroker.System.Verified

/-!
# The length of stored error messages

The outbox publisher cuts the text of an exception off before it stores it, and so every
`outbox_events.last_error` has at most 1000 characters. The delivery worker stores the message
of an outcome as it is, in the delivery's row and in its attempt: what an SMTP server answers, or
the text of an exception, is stored at any length.

An outcome travels through the worker's program from the action that consumes the adapter's reply
to the one that commits it, and other processes act in between. `publishDueEvents_keeps` and
`processDueDeliveries_keeps` follow the two programs that store messages; all other calls are
known by their effects.
-/

namespace NotificationBroker

open Interleave Interleave.Prog Python
open ReadCommitted (Table)

/-- The bound of the outbox publisher. -/
def errorMessageLimit : ℕ := 1000

/-- There is no message, or it is short enough. -/
def FitsLimit (message : Option String) : Prop :=
  ∀ text, message = some text → text.length ≤ errorMessageLimit

theorem fitsLimit_none : FitsLimit none := fun _ h => nomatch h

theorem fitsLimit_some {text : String} :
    FitsLimit (some text) ↔ text.length ≤ errorMessageLimit :=
  ⟨fun h => h text rfl, fun h _ h_eq => Option.some.inj h_eq ▸ h⟩

/-! ### Statements that keep an invariant -/

section Statements

variable {α β : Type} {p : Pid} {D : Choice → Prop} {I : World → Prop} {Q : α → Prop}

theorem keeps_perform {f : Action α}
    (h : ∀ i w a w', D i → I w → f p i w = some (a, w') → I w' ∧ Q a) :
    Prog.Keeps p D I (OnReturn Q) (perform f) := by
  intro i w a w' h_choice h_inv hf
  obtain ⟨h_inv', ha⟩ := h i w a w' h_choice h_inv hf
  exact ⟨h_inv', onReturn_ok ha⟩

theorem keeps_return {a : α} (ha : Q a) :
    Prog.Keeps p D I (OnReturn Q) (pure a : Program α) :=
  onReturn_ok ha

/-- The clock is noted in the history only. -/
theorem keeps_awareUtcNow (h_record : ∀ w event, I w → I (w.record event)) :
    Prog.Keeps p D I (OnReturn fun _ => True) awareUtcNow := by
  intro i w r w' _ h_inv hf
  cases i with
  | time value =>
    obtain ⟨-, rfl⟩ := Prod.mk.inj (Option.some.inj hf)
    exact ⟨h_record w _ h_inv, fun _ _ => trivial⟩
  | _ => exact absurd hf (by simp)

theorem keeps_unitOfWork {body : Program α} (h_rollback : ∀ w, I w → I (w.rollback p))
    (h : Prog.Keeps p D I (OnReturn Q) body) :
    Prog.Keeps p D I (OnReturn Q) (unitOfWork body) := by
  refine Keeps.tryCatch h fun e => Keeps.bind_raising (R := fun _ => True) ?_ ?_
  · refine keeps_perform fun i w _ w' _ h_inv hf => ?_
    obtain ⟨-, rfl⟩ := Prod.mk.inj (Option.some.inj hf)
    exact ⟨h_rollback w h_inv, trivial⟩
  · exact fun _ _ => onReturn_error e

end Statements

variable {d : Deployment} {p : Pid} {D : Choice → Prop} {w w' : World}

/-! ### The outbox publisher -/

/-- Every stored error of the outbox is short enough. -/
def World.OutboxFits (w : World) : Prop := ∀ e ∈ w.outbox, FitsLimit e.lastError

namespace OutboxPublisher

theorem applyClaims_lastError (claims : List ClaimedOutboxEvent) (now leaseExpiresAt : Instant)
    (workerId : String) (e : OutboxEvent) :
    (e.applyClaims claims now leaseExpiresAt workerId).lastError = e.lastError := by
  unfold OutboxEvent.applyClaims
  split <;> rfl

/-- A finalized event has no error, or the one that is passed. -/
theorem finalized_lastError (publisher : OutboxPublisher) (now : Instant)
    (errorMessage : Option String) (e : OutboxEvent) :
    (publisher.finalized now errorMessage e).lastError = errorMessage := by
  unfold finalized
  cases errorMessage with
  | none => rfl
  | some message =>
    simp only [OutboxEvent.markPublishFailed]
    split <;> rfl

/-- `str(exc)[:1_000]`. -/
theorem fitsLimit_cut (message : String) :
    FitsLimit (some (String.ofList (message.toList.take 1000))) := by
  rw [fitsLimit_some, String.length_ofList, List.length_take]
  exact Nat.min_le_left 1000 _

variable (publisher : OutboxPublisher)

theorem finalizeEvent_keeps (claim : ClaimedOutboxEvent) (now : Instant)
    {errorMessage : Option String} (h_message : FitsLimit errorMessage) :
    Prog.Keeps p D World.OutboxFits (OnReturn fun _ => True)
      (publisher.finalizeEvent claim now errorMessage) := by
  refine keeps_perform fun i w _ w' _ h_inv hf => ?_
  split at hf
  · -- the event is no longer held
    obtain ⟨-, rfl⟩ := Prod.mk.inj (Option.some.inj hf)
    exact ⟨h_inv, trivial⟩
  · obtain ⟨-, rfl⟩ := Prod.mk.inj (Option.some.inj hf)
    refine ⟨fun e he => ?_, trivial⟩
    obtain ⟨e₀, he₀, rfl⟩ := List.mem_map.mp he
    split
    · rw [finalized_lastError]
      exact h_message
    · exact h_inv e₀ he₀

theorem publishEvent_keeps (claim : ClaimedOutboxEvent) (now : Instant) :
    Prog.Keeps p D World.OutboxFits (OnReturn fun _ => True)
      (publisher.publishEvent claim now) := by
  -- sending the record leaves the outbox as it is
  have h_publish : Prog.Keeps p D World.OutboxFits (OnReturn fun _ => True) (publish claim) := by
    refine keeps_perform fun i w _ w' _ h_inv hf => ?_
    cases i with
    | ack | nack accepted message =>
      obtain ⟨-, rfl⟩ := Prod.mk.inj (Option.some.inj hf)
      exact ⟨h_inv, trivial⟩
    | _ => exact absurd hf (by simp)
  refine Keeps.bind_raising h_publish fun errorMessage _ => ?_
  cases errorMessage with
  -- the publisher cuts the text of the exception
  | some message => exact publisher.finalizeEvent_keeps claim now (fitsLimit_cut message)
  | none => exact publisher.finalizeEvent_keeps claim now fitsLimit_none

theorem publishClaims_keeps (now : Instant) (claims : List ClaimedOutboxEvent)
    (counts : ℕ × ℕ × ℕ) :
    Prog.Keeps p D World.OutboxFits (OnReturn fun _ => True)
      (publisher.publishClaims now claims counts) := by
  induction claims generalizing counts with
  | nil => exact keeps_return trivial
  | cons claim claims ih =>
    exact Keeps.bind_raising (publisher.publishEvent_keeps claim now) fun result _ => ih _

/-- The publisher stores short messages only, whatever the broker's exceptions say. -/
theorem publishDueEvents_keeps (limit : ℤ) :
    Prog.Keeps p D World.OutboxFits (OnReturn fun _ => True)
      (publisher.publishDueEvents limit) := by
  refine Keeps.bind_raising (keeps_awareUtcNow fun _ _ h_inv => h_inv) fun now _ => ?_
  refine Keeps.bind_raising (R := fun _ => True) ?_ fun claims _ =>
    Keeps.bind_raising (publisher.publishClaims_keeps now claims _) fun _ _ => keeps_return trivial
  unfold claimDueEvents
  split
  · exact keeps_return trivial
  · refine keeps_perform fun i w _ w' _ h_inv hf => ?_
    -- a claim sets the lease and the count of the attempts, not the last error
    cases i with
    | claim skipped tokens =>
      simp only [Option.ite_none_right_eq_some] at hf
      obtain ⟨-, rfl⟩ := Prod.mk.inj (Option.some.inj hf.2)
      refine ⟨fun e he => ?_, trivial⟩
      obtain ⟨e₀, he₀, rfl⟩ := List.mem_map.mp he
      rw [applyClaims_lastError]
      exact h_inv e₀ he₀
    | _ => exact absurd hf (by simp)

end OutboxPublisher

/-- The other calls add events without an error. -/
theorem Acts.outboxFits (h : Acts d p w w') (h_part : (d.calls p).part ≠ .publisher)
    (hI : w.OutboxFits) : w'.OutboxFits := by
  cases h with
  | effect h =>
    -- the events of the outbox are written by publishers only; all other parties append them
    cases h with
    | claimEvents _ _ _ _ _ _ _ _ h_call => exact absurd h_call h_part
    | finalizeEvent _ _ _ _ _ h_publisher =>
      obtain ⟨limit, h_call⟩ := h_publisher
      exact absurd (congrArg Call.part h_call) h_part
    | _ => exact hI
  | finish h =>
    cases h with
    | commitNotification row now eventId =>
      -- a new event has no error yet
      exact List.forall_mem_append.mpr ⟨hI, List.forall_mem_singleton.mpr fitsLimit_none⟩
    | commitRetry =>
      refine List.forall_mem_append.mpr ⟨hI, fun e he => ?_⟩
      split at he
      · exact absurd he List.not_mem_nil
      · rw [List.mem_singleton.mp he]
        exact fitsLimit_none

/-! ### The delivery worker -/

/-- The row's channel is one the system knows, and its message is short enough. -/
structure Delivery.Fits (r : Delivery) : Prop where
  channel : ∃ channel : Channel, r.channel = channel.value
  message : FitsLimit r.lastErrorMessage

/-- Every stored message of a delivery or of an attempt is short enough. -/
structure World.DeliveriesFit (w : World) : Prop where
  deliveries : ∀ r ∈ w.deliveries.rows, r.Fits
  attempts : ∀ a ∈ w.attempts, FitsLimit a.errorMessage

/-- A reply of an adapter that leads to a short message: that of the outcome, or
`delivery adapter raised` and the name of the exception. -/
def Choice.ReplyFits : Choice → Prop
  | .adapter (.ok outcome) => FitsLimit outcome.errorMessage
  | .adapter (.error exceptionName) => exceptionName.length ≤ 976
  | _ => True

theorem Delivery.Initial.fits {r : Delivery} (h : r.Initial) : r.Fits := by
  obtain ⟨notificationId, userId, recipientId, channel, nextAttemptAt, h_row⟩ := h
  rw [h_row]
  exact ⟨⟨channel, rfl⟩, fitsLimit_none⟩

/-- A change of the deliveries that leaves the attempts alone. -/
theorem World.DeliveriesFit.change (h : w.DeliveriesFit) (h_attempts : w'.attempts = w.attempts)
    (h_change : Table.Change (fun r r' : Delivery => r.Fits → r'.Fits) Delivery.Fits p
      w.deliveries w'.deliveries) : w'.DeliveriesFit where
  deliveries := h_change.forall_rows h.deliveries
  attempts := h_attempts ▸ h.attempts

theorem World.DeliveriesFit.rollback (h : w.DeliveriesFit) (q : Pid) :
    (w.rollback q).DeliveriesFit :=
  h.change rfl .abort

/-- The other calls store no message of a delivery. -/
theorem Acts.deliveriesFit (h : Acts d p w w') (h_part : (d.calls p).part ≠ .worker)
    (hI : w.DeliveriesFit) : w'.DeliveriesFit := by
  cases h with
  | effect h =>
    -- claims and outcomes belong to workers; the other parties keep the messages of the rows
    cases h with
    | rollback => exact hI.rollback p
    | insertDelivery _ _ _ recipient channel nextAttemptAt row _ _ _ _ _ _ _ _ h_row =>
      exact hI.change rfl (.insert row (Delivery.Initial.fits ⟨_, _, _, _, _, h_row⟩))
    | commitFanout => exact hI.change rfl .commit
    | claimDeliveries _ _ _ _ _ _ _ _ _ h_call => exact absurd h_call h_part
    | finalizeDelivery _ _ _ _ _ _ _ _ _ _ _ _ _ _ h_call => exact absurd h_call h_part
    | markRead =>
      refine hI.change (p := p) rfl (.modify _ fun r _ hr => ?_)
      split
      · exact ⟨hr.channel, hr.message⟩
      · exact hr
    | _ => exact ⟨hI.deliveries, hI.attempts⟩
  | finish h =>
    cases h with
    | commitNotification => exact ⟨hI.deliveries, hI.attempts⟩
    | commitRetry =>
      refine hI.change (p := p) rfl (.modify _ fun r _ hr => ?_)
      split
      · exact ⟨hr.channel, hr.message⟩
      · exact hr

namespace DeliveryWorker

theorem applyClaims_fits {r : Delivery} (claims : List ClaimedDelivery)
    (now leaseExpiresAt : Instant) (workerId : String) (hr : r.Fits) :
    (r.applyClaims claims now leaseExpiresAt workerId).Fits := by
  unfold Delivery.applyClaims
  split
  · exact ⟨hr.channel, hr.message⟩
  · exact hr

/-- The row has no message or that of the outcome. -/
theorem recordOutcome_fits {r : Delivery} {outcome : DeliveryOutcome} (now retryDelay : ℤ)
    (h_outcome : FitsLimit outcome.errorMessage) (hr : r.Fits) :
    (recordOutcome outcome now retryDelay r).Fits := by
  refine ⟨hr.channel, ?_⟩
  simp only [recordOutcome]
  split
  · exact fitsLimit_none
  · exact h_outcome

variable (worker : DeliveryWorker)

theorem claimDueDeliveries_keeps (now : Instant) (limit : ℤ) (workerId : String)
    (leaseExpiresAt : Instant) (channels : Option (List Channel)) :
    Prog.Keeps p D World.DeliveriesFit (OnReturn fun _ => True)
      (claimDueDeliveries now limit workerId leaseExpiresAt channels) := by
  unfold claimDueDeliveries
  split
  · exact keeps_return trivial
  · refine keeps_perform fun i w _ w' _ h_inv hf => ?_
    cases i with
    | claim skipped tokens =>
      simp only [Option.ite_none_right_eq_some] at hf
      obtain ⟨-, rfl⟩ := Prod.mk.inj (Option.some.inj hf.2)
      exact ⟨h_inv.change (p := p) rfl (.modify _ fun r _ hr => applyClaims_fits _ _ _ _ hr),
        trivial⟩
    | _ => exact absurd hf (by simp)

/-- What is loaded is a row of the table. -/
theorem loadClaimedDeliveryContext_keeps (claim : ClaimedDelivery) :
    Prog.Keeps p D World.DeliveriesFit (OnReturn fun found => ∀ r, found = some r → r.Fits)
      (loadClaimedDeliveryContext claim) := by
  refine keeps_perform fun i w _ w' _ h_inv hf => ?_
  split at hf
  next r h_find =>
    obtain ⟨rfl, rfl⟩ := Prod.mk.inj (Option.some.inj hf)
    refine ⟨⟨h_inv.deliveries, h_inv.attempts⟩, fun r' h_eq => ?_⟩
    obtain rfl := Option.some.inj h_eq
    exact h_inv.deliveries r (Table.mem_rows_of_committed (getClaimedDelivery_some h_find).1)
  next =>
    obtain ⟨rfl, rfl⟩ := Prod.mk.inj (Option.some.inj hf)
    exact ⟨⟨h_inv.deliveries, h_inv.attempts⟩, fun r h_eq => nomatch h_eq⟩

/-- The worker's own message for an exception. -/
theorem fitsLimit_raised {exceptionName : String} (h : exceptionName.length ≤ 976) :
    FitsLimit (some ("delivery adapter raised " ++ exceptionName)) := by
  have h_prefix : "delivery adapter raised ".length = 24 := by decide
  rw [fitsLimit_some, String.length_append, h_prefix, errorMessageLimit]
  omega

/-- A call of the adapter ends with a short message if its reply leads to one. -/
theorem callAdapter_keeps (claim : ClaimedDelivery) (r : Delivery) :
    Prog.Keeps p Choice.ReplyFits World.DeliveriesFit
      (OnReturn fun outcome => FitsLimit outcome.errorMessage) (callAdapter claim r) := by
  refine Keeps.bind_raising (R := fun _ => True) ?_ fun _ _ => ?_
  · -- the call of the adapter is recorded; no row changes
    refine keeps_perform fun i w _ w' _ h_inv hf => ?_
    obtain ⟨-, rfl⟩ := Prod.mk.inj (Option.some.inj hf)
    exact ⟨⟨h_inv.deliveries, h_inv.attempts⟩, trivial⟩
  · refine keeps_perform fun i w outcome w' h_choice h_inv hf => ?_
    cases i with
    | adapter reply =>
      cases reply with
      | ok answer =>
        obtain ⟨rfl, rfl⟩ := Prod.mk.inj (Option.some.inj hf)
        -- the answer of the adapter is what the assumption on the choices bounds
        exact ⟨⟨h_inv.deliveries, h_inv.attempts⟩, h_choice⟩
      | error exceptionName =>
        obtain ⟨rfl, rfl⟩ := Prod.mk.inj (Option.some.inj hf)
        -- the worker writes the message of a raised exception itself
        exact ⟨⟨h_inv.deliveries, h_inv.attempts⟩, fitsLimit_raised h_choice⟩
    | _ => exact absurd hf (by simp)

theorem deliver_keeps (claim : ClaimedDelivery) {r : Delivery} (hr : r.Fits) :
    Prog.Keeps p Choice.ReplyFits World.DeliveriesFit
      (OnReturn fun outcome => FitsLimit outcome.errorMessage) (worker.deliver claim r) := by
  unfold deliver
  split
  next h_none =>
    -- a row of the table is for a channel the system knows
    obtain ⟨channel, h_channel⟩ := hr.channel
    rw [h_channel] at h_none
    exact absurd h_none (by cases channel <;> decide)
  next channel _ =>
    split
    · exact callAdapter_keeps claim r
    · refine keeps_return ?_
      rw [fitsLimit_some]
      cases channel <;> decide

theorem finalizeClaimedDelivery_keeps (claim : ClaimedDelivery) {outcome : DeliveryOutcome}
    (now : Instant) (h_outcome : FitsLimit outcome.errorMessage) :
    Prog.Keeps p D World.DeliveriesFit (OnReturn fun _ => True)
      (worker.finalizeClaimedDelivery claim outcome now) := by
  refine keeps_unitOfWork (fun w h_inv => h_inv.rollback p) fun i w r w' _ h_inv hf => ?_
  refine ⟨?_, fun _ _ => trivial⟩
  unfold commitOutcome at hf
  split at hf
  · -- the claim is lost, so nothing is written
    obtain ⟨-, rfl⟩ := Prod.mk.inj (Option.some.inj hf)
    exact ⟨h_inv.deliveries, h_inv.attempts⟩
  · cases i with
    | fresh id =>
      simp only [Option.ite_none_right_eq_some] at hf
      obtain ⟨-, hf⟩ := hf
      split at hf
      · -- the row and the attempt get the same message
        obtain ⟨-, rfl⟩ := Prod.mk.inj (Option.some.inj hf)
        refine ⟨?_, List.forall_mem_append.mpr ⟨h_inv.attempts, ?_⟩⟩
        · refine (Table.Change.modify (p := p) (I := Delivery.Fits) _
            fun r _ hr => ?_).forall_rows h_inv.deliveries
          split
          · exact recordOutcome_fits now worker.retryDelay h_outcome hr
          · exact hr
        · exact List.forall_mem_singleton.mpr h_outcome
      · obtain ⟨-, rfl⟩ := Prod.mk.inj (Option.some.inj hf)
        exact ⟨h_inv.deliveries, h_inv.attempts⟩
    | _ => exact absurd hf (by simp)

theorem processClaims_keeps (now : Instant) (claims : List ClaimedDelivery) :
    Prog.Keeps p Choice.ReplyFits World.DeliveriesFit (OnReturn fun _ => True)
      (worker.processClaims now claims) := by
  induction claims with
  | nil => exact keeps_return trivial
  | cons claim claims ih =>
    refine Keeps.bind_raising (loadClaimedDeliveryContext_keeps claim) fun found h_found => ?_
    cases found with
    | none => exact ih
    | some r =>
      -- the row that was loaded fits, and so does the answer for it
      refine Keeps.bind_raising (worker.deliver_keeps claim (h_found r rfl))
        fun outcome h_outcome => ?_
      refine Keeps.bind_raising (worker.finalizeClaimedDelivery_keeps claim now h_outcome)
        fun finalized _ => ?_
      exact Keeps.bind_raising ih fun processed _ => keeps_return trivial

/-- The worker stores short messages only, if the adapters' replies lead to short ones. -/
theorem processDueDeliveries_keeps (limit : ℤ) :
    Prog.Keeps p Choice.ReplyFits World.DeliveriesFit (OnReturn fun _ => True)
      (worker.processDueDeliveries limit) := by
  refine Keeps.bind_raising
    (keeps_awareUtcNow fun _ _ h_inv => ⟨h_inv.deliveries, h_inv.attempts⟩) fun now _ => ?_
  refine Keeps.bind_raising (claimDueDeliveries_keeps _ _ _ _ _) fun claims _ => ?_
  exact Keeps.bind_raising (worker.processClaims_keeps now claims) fun _ _ => keeps_return trivial

end DeliveryWorker

/-! ### What the email adapter replies -/

namespace EmailDeliveryAdapter

variable (adapter : EmailDeliveryAdapter)

/-- The text of an exception that ends a session: the server's answer where it is one. -/
def failureText : Smtp.SmtpError → String
  | .response _ _ smtpError => smtpError
  | e => adapter.library.str e

theorem failureOutcome_errorMessage (e : Smtp.SmtpError) :
    (adapter.failureOutcome e).errorMessage = some (adapter.failureText e) := by
  cases e <;> rfl

/-- The message of an outcome is that of the exception that has ended the session, if there was
a session and it was ended by one; all others are short. -/
theorem deliver_replyFits_iff {conversation : Smtp.Conversation} {delivery : Delivery}
    {notification : Notification} {user : EmailUser} {outcome : DeliveryOutcome}
    (h : adapter.deliver conversation delivery notification user = .ok outcome) :
    (Choice.adapter (.ok outcome)).ReplyFits ↔
      ∀ message e, adapter.message delivery notification user = .ok message →
        (Stateful.result (adapter.session conversation message) conversation.start).1 = .error e →
        (adapter.failureText e).length ≤ errorMessageLimit := by
  change FitsLimit outcome.errorMessage ↔ _
  unfold deliver at h
  cases h_message : adapter.message delivery notification user with
  | error e =>
    -- without a message to send, the adapter answers with a constant text
    have h_short : FitsLimit outcome.errorMessage := by
      rw [h_message] at h
      cases e with
      | emailTemplateError | valueError _ =>
        obtain rfl := Except.ok.inj h
        exact fitsLimit_some.mpr (by decide)
      | other e => exact absurd h (by simp)
    exact ⟨fun _ _ _ h_ok => absurd h_ok (by simp), fun _ => h_short⟩
  | ok message =>
    rw [h_message] at h
    cases h_session : (Stateful.result (adapter.session conversation message)
        conversation.start).1 with
    | ok _ =>
      simp only [h_session] at h
      obtain rfl := Except.ok.inj h
      refine ⟨fun _ message' e h_ok h_error => ?_, fun _ => fitsLimit_none⟩
      obtain rfl := Except.ok.inj h_ok
      exact absurd (h_session.symm.trans h_error) (by simp)
    | error e =>
      simp only [h_session] at h
      obtain rfl := Except.ok.inj h
      -- the text of the server goes into the outcome as it is
      rw [failureOutcome_errorMessage, fitsLimit_some]
      refine ⟨fun h_text message' e' h_ok h_error => ?_, fun h_all => h_all message e rfl h_session⟩
      obtain rfl := Except.ok.inj h_ok
      obtain rfl := Except.error.inj (h_session.symm.trans h_error)
      exact h_text

end EmailDeliveryAdapter

/-! ### Whole runs -/

variable {clock : Instant} {directory : Directory} {ls : Schedule} {c : State}

/-- What holds of the empty database and survives crashes holds at the end of every run, if the
programs of one part of the system keep it, as long as their choices meet a condition, and the
actions of the others do. -/
theorem Deployment.Run.kept {I : World → Prop} (part : Part) (h : d.Run clock directory ls c)
    (h_initial : I (World.initial clock directory))
    (h_env : ∀ w clock directory, I w → I { w with clock := clock, directory := directory })
    (h_crash : ∀ p w, I w → I (World.crash p w))
    (h_act : ∀ p w w', (d.calls p).part ≠ part → I w → Acts d p w w' → I w')
    (h_keeps : ∀ p, (d.calls p).part = part →
      Prog.Keeps p D I (fun _ => True) ((d.calls p).program d.sha256))
    (h_choices : ∀ p i, .run p i ∈ ls → D i) : I c.world := by
  refine (d.verified clock directory).kept (contract_discipline d)
    (S := fun p => (d.calls p).part = part) (R := fun _ => True) ?_ h_crash
    (fun p w w' h_part _ hI h_acts => h_act p w w' h_part hI h_acts) h_initial ?_ h h_choices
  · -- the environment moves the clock and the directory, nothing else
    intro e w w' hI h_move
    obtain ⟨clock, directory, rfl⟩ := env_apply h_move
    exact h_env w clock directory hI
  · intro p m h_part h_prog
    exact Option.some.inj h_prog ▸ h_keeps p h_part

/-- A call's answer wraps what its program returns. -/
theorem keeps_answer {α : Type} {I : World → Prop} {m : Program α} (wrap : α → Answer)
    (h : Prog.Keeps p D I (OnReturn fun _ => True) m) :
    Prog.Keeps p D I (fun _ => True) (Program.answer wrap m) :=
  (Keeps.bind_raising (Q := fun _ => True) h fun _ _ => keeps_return trivial).mono
    fun _ _ => trivial

/-- **Stored error messages.** No run stores an outbox error of more than 1000 characters. A run
in which the message of every reply of an adapter is short enough stores no longer message of a
delivery or of an attempt either; and the reply of the email adapter is short enough if and only
if the server's answer, or the text of the exception, that has ended its session is. -/
theorem errorMessages_fit (h : d.Run clock directory ls c) :
    (∀ e ∈ c.world.outbox, FitsLimit e.lastError) ∧
    ((∀ p i, .run p i ∈ ls → i.ReplyFits) →
      (∀ r ∈ c.world.deliveries.rows, FitsLimit r.lastErrorMessage) ∧
      ∀ a ∈ c.world.attempts, FitsLimit a.errorMessage) ∧
    ∀ (adapter : EmailDeliveryAdapter) conversation delivery notification user outcome,
      adapter.deliver conversation delivery notification user = .ok outcome →
      ((Choice.adapter (.ok outcome)).ReplyFits ↔
        ∀ message e, adapter.message delivery notification user = .ok message →
          (Stateful.result (adapter.session conversation message) conversation.start).1 =
            .error e →
          (adapter.failureText e).length ≤ errorMessageLimit) := by
  refine ⟨?_, fun h_replies => ?_, fun adapter _ _ _ _ _ => adapter.deliver_replyFits_iff⟩
  · -- the publisher cuts its texts, so the outbox needs no assumption on the choices
    refine h.kept (I := World.OutboxFits) .publisher (D := fun _ => True)
      (fun _ he => absurd he List.not_mem_nil) (fun _ _ _ hI => hI) (fun _ _ hI => hI)
      (fun p w w' h_part hI h_acts => h_acts.outboxFits h_part hI) (fun p h_part => ?_)
      fun _ _ _ => trivial
    cases h_call : d.calls p with
    | publishDueEvents publisher limit =>
      exact keeps_answer .published (publisher.publishDueEvents_keeps limit)
    | _ => exact absurd h_part (by simp [h_call, Call.part])
  · -- the worker stores what the adapter answers
    have h_fit : c.world.DeliveriesFit := by
      refine h.kept (I := World.DeliveriesFit) .worker (D := Choice.ReplyFits)
        ⟨fun _ hr => absurd hr List.not_mem_nil, fun _ ha => absurd ha List.not_mem_nil⟩
        (fun _ _ _ hI => ⟨hI.deliveries, hI.attempts⟩)
        (fun p w hI => ⟨(hI.rollback p).deliveries, hI.attempts⟩)
        (fun p w w' h_part hI h_acts => h_acts.deliveriesFit h_part hI) (fun p h_part => ?_)
        h_replies
      cases h_call : d.calls p with
      | processDueDeliveries worker limit =>
        exact keeps_answer .delivered (worker.processDueDeliveries_keeps limit)
      | _ => exact absurd h_part (by simp [h_call, Call.part])
    exact ⟨fun r hr => (h_fit.deliveries r hr).message, h_fit.attempts⟩

/-- An answer of 1001 characters. -/
def longAnswer : String := String.ofList (List.replicate 1001 'x')

theorem longAnswer_length : longAnswer.length = 1001 :=
  (String.length_ofList).trans List.length_replicate

/-- The server refuses the sender with the given answer. -/
def refusal (answer : String) : Smtp.Conversation :=
  ⟨none, [.reply 220 "", .reply 250 "", .reply 550 answer, .reply 250 "", .reply 221 ""]⟩

/-- A notification by email, and a worker that sends it. -/
def refusedDeployment : Deployment := .ofCalls id [
  .createNotification ⟨3600000000⟩ "orders" (.toAll [.email] postInit_email) none,
  .consume {} "consumer" (.requested 50 10),
  .processDueDeliveries ⟨[.email], none, "worker", 60000000, 30000000⟩ 10]

/-- The adapter replies with the given outcome. -/
def refusedSchedule (outcome : DeliveryOutcome) : Schedule := [
  .run 0 (.time (.ofInstant 0)), .run 0 .go, .run 0 (.fresh 10), .run 0 (.fresh 11),
  .run 1 .go, .run 1 (.time (.ofInstant 0)), .run 1 .go, .run 1 .go, .run 1 .go,
  .run 1 (.fresh 21), .run 1 .go, .run 1 .go, .run 1 (.fresh 22), .run 1 .go, .run 1 .go,
  .run 2 (.time (.ofInstant 0)), .run 2 (.claim [] [31]), .run 2 .go, .run 2 .go,
  .run 2 (.adapter (.ok outcome)), .run 2 (.fresh 33)]

theorem refusedSchedule_replyFits {outcome : DeliveryOutcome}
    (h_outcome : FitsLimit outcome.errorMessage) {i : Choice}
    (h : .run p i ∈ refusedSchedule outcome) : i.ReplyFits := by
  cases i with
  | adapter reply =>
    simp only [refusedSchedule, List.mem_cons, Label.run.injEq, Choice.adapter.injEq,
      reduceCtorEq, and_false, false_or, or_false, List.not_mem_nil] at h
    rw [h.2]
    exact h_outcome
  | _ => trivial

/-- The server's answer is stored in full. -/
theorem errorMessages_longAnswer :
    ∃ outcome c,
      EmailDeliveryAdapter.helloAdapter.deliver (refusal longAnswer)
        EmailDeliveryAdapter.helloDelivery EmailDeliveryAdapter.helloNotification
        EmailDeliveryAdapter.helloUser = .ok outcome ∧
      refusedDeployment.Run 0 (.ofUsers [1] (by decide)) (refusedSchedule outcome) c ∧
      (∃ r ∈ c.world.deliveries.rows, ¬ FitsLimit r.lastErrorMessage) ∧
      ∃ a ∈ c.world.attempts, ¬ FitsLimit a.errorMessage := by
  -- one character more than the column takes
  have h_long : ¬ FitsLimit (some longAnswer) := by
    rw [fitsLimit_some, longAnswer_length]
    exact Nat.not_succ_le_self 1000
  obtain ⟨c, h_run, h_c⟩ := refusedDeployment.exists_run 0 (.ofUsers [1] (by decide))
    (refusedSchedule (EmailDeliveryAdapter.smtpResponseOutcome 550 longAnswer)) (fun c => decide (
      c.world.deliveries.committed.map Delivery.lastErrorMessage = [some longAnswer] ∧
      c.world.attempts.map DeliveryAttempt.errorMessage = [some longAnswer])) (by decide +kernel)
  obtain ⟨h_row, h_attempt⟩ := of_decide_eq_true h_c
  obtain ⟨r, hr, h_r⟩ := List.mem_map.mp (h_row ▸ List.mem_singleton_self (some longAnswer))
  obtain ⟨a, ha, h_a⟩ := List.mem_map.mp (h_attempt ▸ List.mem_singleton_self (some longAnswer))
  exact ⟨_, c, rfl, h_run, ⟨r, Table.mem_rows_of_committed hr, h_r ▸ h_long⟩, a, ha, h_a ▸ h_long⟩

/-- A short answer. -/
theorem errorMessages_shortAnswer :
    ∃ c, refusedDeployment.Run 0 (.ofUsers [1] (by decide))
        (refusedSchedule (EmailDeliveryAdapter.smtpResponseOutcome 550 "no")) c ∧
      c.world.attempts.map DeliveryAttempt.errorMessage = [some "no"] ∧
      (∀ e ∈ c.world.outbox, FitsLimit e.lastError) ∧
      (∀ r ∈ c.world.deliveries.rows, FitsLimit r.lastErrorMessage) ∧
      ∀ a ∈ c.world.attempts, FitsLimit a.errorMessage := by
  obtain ⟨c, h_run, h_c⟩ := refusedDeployment.exists_run 0 (.ofUsers [1] (by decide))
    (refusedSchedule (EmailDeliveryAdapter.smtpResponseOutcome 550 "no")) (fun c => decide (
      c.world.attempts.map DeliveryAttempt.errorMessage = [some "no"])) (by decide +kernel)
  obtain ⟨h_outbox, h_deliveries, -⟩ := errorMessages_fit h_run
  have h_short : FitsLimit (EmailDeliveryAdapter.smtpResponseOutcome 550 "no").errorMessage :=
    fitsLimit_some.mpr (by decide)
  exact ⟨c, h_run, of_decide_eq_true h_c, h_outbox,
    h_deliveries fun p i => refusedSchedule_replyFits h_short⟩

end NotificationBroker
