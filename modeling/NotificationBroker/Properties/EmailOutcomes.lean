import NotificationBroker.Python.SmtpTranscript
import NotificationBroker.Workers.EmailDelivery

/-!
# What the email adapter reports

Two defects are in the way of the adapter reporting what the server has done with a message. A
session that is left with an answer other than 221 to `QUIT` raises after the message has been
taken over, and the adapter reports a failure (`delivered_iff_sent`). A refusal of the only
recipient is not an `SMTPResponseException`, and the adapter takes a permanent one for a
network failure (`rejection_reported`).

Both follow from what the session tells (`sendMessage_told`), by the cases of `session_cases`:
there is no session, or `send_message` ends in one way or the other and the session is left.
-/

namespace NotificationBroker

open Python.Smtp

namespace EmailDeliveryAdapter

variable (adapter : EmailDeliveryAdapter) (conversation : Conversation) (delivery : Delivery)
  (notification : Notification) (user : EmailUser)

/-- `send_message` returns normally, and leaves the connection `c`. -/
def Sends (c : Connection) : Prop :=
  ∃ message, adapter.message delivery notification user = .ok message ∧
    ∃ c₀, Stateful.result (connect conversation) conversation.start = (.ok (), c₀) ∧
      Stateful.result (sendMessage (adapter.envelope message)) c₀ = (.ok (), c)

/-- `deliver` returns an outcome of the given status. -/
def Reports (status : DeliveryOutcomeStatus) : Prop :=
  ∃ outcome, adapter.deliver conversation delivery notification user = .ok outcome ∧
    outcome.status = status

/-- The transcript of the session that is to send the message. -/
def transcript (message : EmailMessage) : List Exchange :=
  (Stateful.result (adapter.session conversation message) conversation.start).2.transcript

variable {adapter conversation delivery notification user} {message : EmailMessage}

/-! ### Sessions -/

/-- What `exit` makes of the end of `send_message`. -/
theorem sendAndQuit_result (c : Connection) {r : Except SmtpError Unit} {c₁ : Connection}
    (h : Stateful.result (sendMessage (adapter.envelope message)) c = (r, c₁)) :
    (Stateful.result (adapter.sendAndQuit message) c).2 = (Stateful.result exit c₁).2 ∧
    (Stateful.result (adapter.sendAndQuit message) c).1 =
      match (Stateful.result exit c₁).1 with
      | .ok () => r
      | .error e => .error e := by
  unfold sendAndQuit
  rw [Stateful.result_bind, Stateful.result_tryCatch, h]
  cases r with
  | ok _ =>
    refine ⟨rfl, ?_⟩
    change (Stateful.result exit c₁).1 = _
    rcases Stateful.result exit c₁ with ⟨_ | _, c₂⟩ <;> rfl
  -- leaving the session may raise in place of what the message has raised
  | error e =>
    simp only [Stateful.orElse, Stateful.result_bind]
    rcases Stateful.result exit c₁ with ⟨_ | _, c₂⟩ <;> exact ⟨rfl, rfl⟩

/-- **The course of a session**: it is not opened, or `send_message` ends in some way and then
the session is left, with or without an exception. -/
theorem session_cases (adapter : EmailDeliveryAdapter) (conversation : Conversation)
    (message : EmailMessage) :
    (∃ e c, Stateful.result (connect conversation) conversation.start = (.error e, c) ∧
      Stateful.result (adapter.session conversation message) conversation.start = (.error e, c) ∧
      Told (adapter.envelope message).toAddrs (some e) c) ∨
    ∃ c₀ r c, Stateful.result (connect conversation) conversation.start = (.ok (), c₀) ∧
      Stateful.result (sendMessage (adapter.envelope message)) c₀ = (r, c) ∧
      Sent (adapter.envelope message).toAddrs r c ∧
      ((c.QuitAccepted ∧
        (Stateful.result (adapter.session conversation message) conversation.start).1 = r ∧
        (adapter.transcript conversation message = c.transcript ∨ ∃ event,
          adapter.transcript conversation message = c.transcript ++ [⟨.quit, event⟩])) ∨
      (¬ c.QuitAccepted ∧ c.isOpen = true ∧ ∃ code text, code ≠ 221 ∧
        (Stateful.result (adapter.session conversation message) conversation.start).1 =
          .error (.response .responseException code text) ∧
        adapter.transcript conversation message =
          c.transcript ++ [⟨.quit, .reply code text⟩])) := by
  have h_connect := connect_ends (adapter.envelope message).toAddrs conversation
    (c := conversation.start) tally_nil
  unfold transcript session
  rw [Stateful.result_bind]
  unfold Stateful.Ends at h_connect
  rcases h_result : Stateful.result (connect conversation) conversation.start with ⟨_ | _, c₀⟩
  · rw [h_result] at h_connect
    -- the connection fails, and with it the `with` block
    exact .inl ⟨_, c₀, rfl, rfl, h_connect⟩
  · rw [h_result] at h_connect
    have h_sent := sendMessage_told (adapter.envelope message) h_connect
    unfold Stateful.Ends at h_sent
    rcases h_send : Stateful.result (sendMessage (adapter.envelope message)) c₀ with ⟨r, c⟩
    rw [h_send] at h_sent
    obtain ⟨h_left, h_raised⟩ := sendAndQuit_result c₀ h_send
    refine .inr ⟨c₀, r, c, rfl, h_send, h_sent, ?_⟩
    simp only [Stateful.andThen, h_left, h_raised]
    -- the message has been sent or refused; the block ends with QUIT
    rcases exit_result c with ⟨h_quit, h_exit, h_transcript⟩ |
      ⟨h_quit, h_open, code, text, h_code, h_exit, h_transcript⟩
    · exact .inl ⟨h_quit, by rw [h_exit], h_transcript⟩
    · exact .inr ⟨h_quit, h_open, code, text, h_code, by rw [h_exit], h_transcript⟩

/-! ### Accepted messages -/

theorem failureOutcome_status (adapter : EmailDeliveryAdapter) (e : SmtpError) :
    (adapter.failureOutcome e).status = .failedRetryable ∨
      (adapter.failureOutcome e).status = .failedTerminal := by
  cases e with
  | response type smtpCode smtpError =>
    simp only [failureOutcome, smtpResponseOutcome]
    split
    · exact .inl rfl
    · exact .inr rfl
  | _ => exact .inl rfl

/-- What is reported of a session that raises. -/
theorem reports_of_error {e : SmtpError} {status : DeliveryOutcomeStatus}
    (h_message : adapter.message delivery notification user = .ok message)
    (h : (Stateful.result (adapter.session conversation message) conversation.start).1 = .error e) :
    adapter.Reports conversation delivery notification user status ↔
      (adapter.failureOutcome e).status = status := by
  unfold Reports deliver
  simp only [h_message, h, Except.ok.injEq, exists_eq_left']

theorem reports_delivered_iff :
    adapter.Reports conversation delivery notification user .delivered ↔
      ∃ message, adapter.message delivery notification user = .ok message ∧
        (Stateful.result (adapter.session conversation message) conversation.start).1 = .ok () := by
  cases h_message : adapter.message delivery notification user with
  | error e =>
    -- without a message there is nothing to deliver: a terminal failure, or an exception
    refine ⟨fun ⟨outcome, h_deliver, h_status⟩ => ?_, fun ⟨_, h, _⟩ => absurd h (by simp)⟩
    unfold deliver at h_deliver
    rw [h_message] at h_deliver
    cases e with
    | emailTemplateError | valueError _ =>
      obtain rfl := Except.ok.inj h_deliver
      exact absurd h_status (by simp)
    | other e => exact absurd h_deliver (by simp)
  | ok message =>
    cases h_session : (Stateful.result (adapter.session conversation message)
      conversation.start).1 with
    | ok _ =>
      refine ⟨fun _ => ⟨message, rfl, h_session⟩, fun _ => ?_⟩
      unfold Reports deliver
      simp only [h_message, h_session]
      exact ⟨_, rfl, rfl⟩
    | error e =>
      rw [reports_of_error h_message h_session]
      refine ⟨fun h => ?_, fun ⟨message', h, h_ok⟩ => ?_⟩
      · -- no exception is reported as a delivery
        rcases failureOutcome_status adapter e with h_status | h_status <;>
          exact absurd (h.symm.trans h_status) (by simp)
      · obtain rfl := Except.ok.inj h
        exact absurd (h_session.symm.trans h_ok) (by simp)

theorem accepts_quit (t : List Exchange) (event : Python.Smtp.Event) :
    (t ++ [(⟨.quit, event⟩ : Exchange)]).any Exchange.accepts = t.any Exchange.accepts := by
  cases event <;> simp [Exchange.accepts]

theorem sent_accepts {toAddrs : List String} {r : Except SmtpError Unit} {c : Connection}
    (h : Sent toAddrs r c) : c.transcript.any Exchange.accepts = true ↔ r = .ok () := by
  cases r with
  | ok _ =>
    have h_told : Told toAddrs none c := h
    exact ⟨fun _ => rfl, fun _ => h_told.accepts⟩
  | error e =>
    have h_told : Told toAddrs (some e) c := h
    exact ⟨fun h_accepts => absurd (h_told.accepts.symm.trans h_accepts) (by simp),
      fun h_ok => absurd h_ok (by simp)⟩

/-- `send_message` returns exactly where the server takes the message over. -/
theorem sends_iff_accepts (h_message : adapter.message delivery notification user = .ok message) :
    (∃ c, adapter.Sends conversation delivery notification user c) ↔
      (adapter.transcript conversation message).any Exchange.accepts = true := by
  rcases session_cases adapter conversation message with ⟨e, c, h_connect, h_session, h_told⟩ |
    ⟨c₀, r, c, h_connect, h_send, h_sent, h_left⟩
  · -- nothing is accepted before the message is sent
    have h_transcript : adapter.transcript conversation message = c.transcript := by
      rw [transcript, h_session]
    rw [h_transcript, h_told.accepts]
    refine ⟨fun ⟨c', message', _, c₀, h_ok, _⟩ => ?_, fun h => absurd h (by simp)⟩
    exact absurd (h_connect.symm.trans h_ok) (by simp)
  · -- QUIT accepts no message, whatever its reply is
    have h_accepts : (adapter.transcript conversation message).any Exchange.accepts =
        c.transcript.any Exchange.accepts := by
      rcases h_left with ⟨_, _, h_same | ⟨event, h_quit⟩⟩ | ⟨_, _, code, text, _, _, h_quit⟩
      · rw [h_same]
      · rw [h_quit, accepts_quit]
      · rw [h_quit, accepts_quit]
    rw [h_accepts, sent_accepts h_sent]
    constructor
    · rintro ⟨c', message', h_message', c₀', h_connect', h_send'⟩
      obtain rfl := Except.ok.inj (h_message.symm.trans h_message')
      obtain rfl := (Prod.mk.inj (h_connect.symm.trans h_connect')).2
      exact (Prod.mk.inj (h_send.symm.trans h_send')).1
    · rintro rfl
      exact ⟨c, message, h_message, c₀, h_connect, h_send⟩

/-- What is reported of a message that the server has taken over. -/
theorem Sends.reports {c : Connection}
    (h : adapter.Sends conversation delivery notification user c) :
    adapter.Reports conversation delivery notification user .delivered ↔ c.QuitAccepted := by
  obtain ⟨message, h_message, c₀, h_connect, h_send⟩ := h
  have h_reports : adapter.Reports conversation delivery notification user .delivered ↔
      (Stateful.result (adapter.session conversation message) conversation.start).1 = .ok () := by
    rw [reports_delivered_iff]
    refine ⟨fun ⟨message', h, h_ok⟩ => ?_, fun h_ok => ⟨message, h_message, h_ok⟩⟩
    obtain rfl := Except.ok.inj (h_message.symm.trans h)
    exact h_ok
  rw [h_reports]
  -- the session is the one in which the message was sent
  rcases session_cases adapter conversation message with ⟨e, c', h_connect', _⟩ |
    ⟨c₀', r, c', h_connect', h_send', -, h_left⟩
  · exact absurd (h_connect.symm.trans h_connect') (by simp)
  · obtain rfl := (Prod.mk.inj (h_connect.symm.trans h_connect')).2
    obtain ⟨rfl, rfl⟩ := Prod.mk.inj (h_send.symm.trans h_send')
    rcases h_left with ⟨h_quit, h_result, -⟩ | ⟨h_quit, -, code, text, -, h_result, -⟩
    · exact ⟨fun _ => h_quit, fun _ => h_result⟩
    · exact ⟨fun h_ok => absurd (h_result.symm.trans h_ok) (by simp), fun h => absurd h h_quit⟩

theorem sends_of_delivered
    (h : adapter.Reports conversation delivery notification user .delivered) :
    ∃ c, adapter.Sends conversation delivery notification user c := by
  obtain ⟨message, h_message, h_ok⟩ := reports_delivered_iff.mp h
  rcases session_cases adapter conversation message with ⟨e, c, h_connect, h_session, -⟩ |
    ⟨c₀, r, c, h_connect, h_send, -, ⟨-, h_result, -⟩ | ⟨-, -, code, text, -, h_result, -⟩⟩
  · exact absurd (h_ok.symm.trans (congrArg Prod.fst h_session)) (by simp)
  · obtain rfl := h_result.symm.trans h_ok
    exact ⟨c, message, h_message, c₀, h_connect, h_send⟩
  · exact absurd (h_result.symm.trans h_ok) (by simp)

/-- **Accepted messages.** `deliver` reports `DELIVERED` only if `send_message` has returned
normally, which is if the server has taken the message over; and it reports it of every such
message if and only if no answer but 221 waits for `QUIT`. -/
theorem delivered_iff_sent (adapter : EmailDeliveryAdapter) (conversation : Conversation)
    (delivery : Delivery) (notification : Notification) (user : EmailUser) :
    (adapter.Reports conversation delivery notification user .delivered →
      ∃ c, adapter.Sends conversation delivery notification user c) ∧
    ((adapter.Reports conversation delivery notification user .delivered ↔
        ∃ c, adapter.Sends conversation delivery notification user c) ↔
      ∀ c, adapter.Sends conversation delivery notification user c → c.QuitAccepted) ∧
    ∀ message, adapter.message delivery notification user = .ok message →
      ((∃ c, adapter.Sends conversation delivery notification user c) ↔
        (adapter.transcript conversation message).any Exchange.accepts = true) := by
  refine ⟨sends_of_delivered, ⟨fun h c h_sends => ?_, fun h => ⟨sends_of_delivered, ?_⟩⟩,
    fun message => sends_iff_accepts⟩
  · exact h_sends.reports.mp (h.mpr ⟨c, h_sends⟩)
  · rintro ⟨c, h_sends⟩
    exact h_sends.reports.mpr (h c h_sends)

/-! ### Rejected messages -/

/-- The status of the outcome for an exception that goes with a rejection. -/
theorem failureOutcome_rejected (adapter : EmailDeliveryAdapter) {toAddrs : List String}
    {e : SmtpError} {c : Connection} (h_told : Told toAddrs (some e) c)
    (h_single : toAddrs.length = 1) {command : Command} {code : ℤ}
    (h : (command, code) ∈ c.transcript.filterMap Exchange.rejection) :
    (adapter.failureOutcome e).status =
      if command.isRcpt = true ∨ (400 ≤ code ∧ code < 500) then .failedRetryable
      else .failedTerminal := by
  cases e with
  | response type smtpCode smtpError =>
    -- a command other than RCPT was rejected, and its reply is in the exception
    obtain ⟨refused, rejecting, h_tally, h_command, h_past⟩ := h_told
    rw [h_tally.rejections, h_past.single h_single] at h
    obtain ⟨rfl, rfl⟩ := Prod.mk.inj (List.mem_singleton.mp h)
    simp [failureOutcome, smtpResponseOutcome, h_command]
  | recipientsRefused recipients =>
    -- the one recipient was refused
    obtain ⟨refused, h_tally, -, h_one⟩ := h_told
    obtain ⟨address, code', h_refused⟩ := h_one h_single
    rw [h_tally.rejections, h_refused] at h
    obtain ⟨rfl, rfl⟩ := Prod.mk.inj (List.mem_singleton.mp h)
    simp [failureOutcome, Command.isRcpt]
  | serverDisconnected message =>
    -- a lost connection rejects nothing
    obtain ⟨refused, lost, h_tally, h_past, -⟩ := h_told
    rw [h_tally.rejections, h_past.single h_single] at h
    exact absurd h List.not_mem_nil
  | notSupported message | osError className message =>
    have h_tally : Tally c.transcript [] false false := h_told
    rw [h_tally.rejections] at h
    exact absurd h List.not_mem_nil

/-- A lost connection is closed, and raises `SMTPServerDisconnected`. -/
theorem told_lost_closed (adapter : EmailDeliveryAdapter) {toAddrs : List String}
    {e : SmtpError} {c : Connection} (h_told : Told toAddrs (some e) c)
    (h_single : toAddrs.length = 1)
    (h_none : c.transcript.filterMap Exchange.rejection = [])
    (h_lost : c.transcript.any Exchange.isLost = true) :
    (adapter.failureOutcome e).status = .failedRetryable ∧ c.isOpen = false := by
  -- an exception about a reply needs a rejection, of which there is none
  cases e with
  | response type smtpCode smtpError =>
    obtain ⟨refused, rejecting, h_tally, -⟩ := h_told
    exact absurd (h_tally.rejections.symm.trans h_none) (by simp)
  | recipientsRefused recipients =>
    obtain ⟨refused, h_tally, -, h_one⟩ := h_told
    obtain ⟨address, code', rfl⟩ := h_one h_single
    exact absurd (h_tally.rejections.symm.trans h_none) (by simp)
  | serverDisconnected message =>
    obtain ⟨refused, lost, -, -, h_closed⟩ := h_told
    exact ⟨rfl, h_closed⟩
  | notSupported message | osError className message =>
    have h_tally : Tally c.transcript [] false false := h_told
    exact absurd (h_tally.lost.symm.trans h_lost) (by simp)

theorem rejection_quit (t : List Exchange) (event : Python.Smtp.Event) :
    (t ++ [(⟨.quit, event⟩ : Exchange)]).filterMap Exchange.rejection =
      t.filterMap Exchange.rejection ∧
    (t ++ [(⟨.quit, event⟩ : Exchange)]).any Exchange.isLost = t.any Exchange.isLost := by
  cases event <;> simp [Exchange.rejection, Exchange.isLost, Command.rejectedBy]

/-- **A session with one recipient that raises**: the exception goes with the transcript, or
it is an answer to `QUIT`, from a server that has answered all that was sent. -/
theorem session_told (conversation : Conversation)
    (h_message : adapter.message delivery notification user = .ok message) :
    (∃ raised c, Told (adapter.envelope message).toAddrs raised c ∧
      (adapter.transcript conversation message).filterMap Exchange.rejection =
        c.transcript.filterMap Exchange.rejection ∧
      (adapter.transcript conversation message).any Exchange.isLost =
        c.transcript.any Exchange.isLost ∧
      ((∀ e, raised = some e → ∀ status,
        adapter.Reports conversation delivery notification user status ↔
          (adapter.failureOutcome e).status = status) ∨
      (c.isOpen = true ∧ ∃ code text, code ≠ 221 ∧
        ⟨.quit, .reply code text⟩ ∈ adapter.transcript conversation message))) := by
  rcases session_cases adapter conversation message with ⟨e, c, h_connect, h_session, h_told⟩ |
    ⟨c₀, r, c, h_connect, h_send, h_sent, h_left⟩
  · -- the connection failed, and its exception is reported
    have h_transcript : adapter.transcript conversation message = c.transcript := by
      rw [transcript, h_session]
    refine ⟨some e, c, h_told, by rw [h_transcript], by rw [h_transcript], .inl ?_⟩
    rintro e' h_eq status
    obtain rfl := Option.some.inj h_eq
    exact reports_of_error h_message (congrArg Prod.fst h_session)
  · -- sending returned, or raised one of the exceptions of `smtplib`
    obtain ⟨raised, h_told, h_raised⟩ : ∃ raised,
        Told (adapter.envelope message).toAddrs raised c ∧ ∀ e, raised = some e → r = .error e := by
      cases r with
      | ok _ => exact ⟨none, h_sent, fun e h => absurd h (by simp)⟩
      | error e => exact ⟨some e, h_sent, fun e' h => by rw [Option.some.inj h]⟩
    rcases h_left with ⟨-, h_result, h_transcript⟩ |
      ⟨-, h_open, code, text, h_code, -, h_transcript⟩
    · -- QUIT was accepted: it is rejected in no transcript
      have h_tally : (adapter.transcript conversation message).filterMap Exchange.rejection =
            c.transcript.filterMap Exchange.rejection ∧
          (adapter.transcript conversation message).any Exchange.isLost =
            c.transcript.any Exchange.isLost := by
        rcases h_transcript with h_same | ⟨event, h_quit⟩
        · rw [h_same]
          exact ⟨rfl, rfl⟩
        · rw [h_quit]
          exact rejection_quit _ _
      refine ⟨raised, c, h_told, h_tally.1, h_tally.2, .inl fun e h_eq status => ?_⟩
      exact reports_of_error h_message (h_result.trans (h_raised e h_eq))
    · -- QUIT was not accepted: it is in the transcript, with a reply that is not 221
      have h_tally := rejection_quit c.transcript (.reply code text)
      rw [← h_transcript] at h_tally
      refine ⟨raised, c, h_told, h_tally.1, h_tally.2, .inr ⟨h_open, code, text, h_code, ?_⟩⟩
      rw [h_transcript]
      exact List.mem_append_right _ (List.mem_singleton_self _)

/-- What is to be reported of a rejection with the given code. -/
def ReportsRejection (adapter : EmailDeliveryAdapter) (conversation : Conversation)
    (delivery : Delivery) (notification : Notification) (user : EmailUser) (code : ℤ) : Prop :=
  (400 ≤ code ∧ code < 500 →
    adapter.Reports conversation delivery notification user .failedRetryable) ∧
  (500 ≤ code ∧ code < 600 →
    adapter.Reports conversation delivery notification user .failedTerminal)

/-- An attempt to connect that fails is one to repeat. -/
theorem reports_refused (h_message : adapter.message delivery notification user = .ok message)
    (h_refused : conversation.refused.isSome = true) :
    adapter.Reports conversation delivery notification user .failedRetryable := by
  obtain ⟨⟨className, text⟩, h_some⟩ := Option.isSome_iff_exists.mp h_refused
  have h_session : (Stateful.result (adapter.session conversation message)
      conversation.start).1 = .error (.osError className text) := by
    rw [session, Stateful.result_bind, connect, h_some]
    rfl
  exact (reports_of_error h_message h_session).mpr rfl

/-- **Rejected messages.** A message to one recipient is rejected by a reply to some command,
and no answer but 221 comes to `QUIT`. Then a 4xx code is reported as `FAILED_RETRYABLE` and a
5xx code as `FAILED_TERMINAL` if and only if it is not a 5xx answer to `RCPT TO`. A message
that is not rejected and does not get through because the connection is refused or lost is
reported as `FAILED_RETRYABLE`. -/
theorem rejection_reported (conversation : Conversation)
    (h_message : adapter.message delivery notification user = .ok message)
    (h_single : (adapter.envelope message).toAddrs.length = 1) :
    (∀ command code text,
      ⟨command, .reply code text⟩ ∈ adapter.transcript conversation message →
      command.rejectedBy code →
      (∀ code text, ⟨.quit, .reply code text⟩ ∈ adapter.transcript conversation message →
        code = 221) →
      (adapter.ReportsRejection conversation delivery notification user code ↔
        ¬ (command.isRcpt = true ∧ 500 ≤ code ∧ code < 600))) ∧
    (conversation.refused.isSome = true ∨
        (adapter.transcript conversation message).any Exchange.isLost = true →
      (adapter.transcript conversation message).filterMap Exchange.rejection = [] →
      adapter.Reports conversation delivery notification user .failedRetryable) := by
  obtain ⟨raised, c, h_told, h_rejections, h_losses, h_end⟩ :=
    session_told conversation h_message
  refine ⟨fun command code text h_mem h_rejected h_quit => ?_, fun h_failure h_none => ?_⟩
  · have h_rejection : (command, code) ∈ c.transcript.filterMap Exchange.rejection := by
      rw [← h_rejections]
      exact List.mem_filterMap.mpr ⟨_, h_mem, by simp [Exchange.rejection, h_rejected]⟩
    cases raised with
    | none =>
      -- a message that is taken over has not been rejected
      obtain ⟨refused, h_tally, h_past⟩ := h_told
      rw [h_tally.rejections, h_past.single h_single] at h_rejection
      exact absurd h_rejection List.not_mem_nil
    | some e =>
      rcases h_end with h_reports | ⟨-, code', text', h_code, h_mem'⟩
      · have h_status := failureOutcome_rejected adapter h_told h_single h_rejection
        unfold ReportsRejection
        rw [h_reports e rfl, h_reports e rfl, h_status]
        by_cases h_rcpt : command.isRcpt = true
        · simp [h_rcpt]
        · by_cases h_code : 400 ≤ code ∧ code < 500
          · have h_not : ¬ (500 ≤ code ∧ code < 600) := by omega
            simp [h_rcpt, h_code, h_not]
          · simp [h_rcpt, h_code]
      · exact absurd (h_quit code' text' h_mem') h_code
  · rcases h_failure with h_refused | h_lost
    · exact reports_refused h_message h_refused
    · rw [h_losses] at h_lost
      rw [h_rejections] at h_none
      cases raised with
      | none =>
        obtain ⟨refused, h_tally, -⟩ := h_told
        exact absurd (h_tally.lost.symm.trans h_lost) (by simp)
      | some e =>
        obtain ⟨h_status, h_closed⟩ :=
          told_lost_closed adapter h_told h_single h_none h_lost
        rcases h_end with h_reports | ⟨h_open, -⟩
        · exact (h_reports e rfl .failedRetryable).mpr h_status
        · exact absurd (h_closed.symm.trans h_open) (by simp)

/-! ### Conversations -/

/-- An adapter whose templates all say hello. -/
def helloAdapter : EmailDeliveryAdapter where
  fromAddress := "notifications@example.test"
  renderer := ⟨fun _ _ => .ok "hello"⟩
  library := ⟨id, fun header => [header], SmtpError.className⟩

def helloDelivery : Delivery where
  id := 1
  notificationRecipientId := 2
  notificationId := 3
  userId := 4
  channel := "email"
  status := .processing
  attemptCount := 0
  maxAttempts := 3
  nextAttemptAt := 0
  processingStartedAt := some 0
  leaseExpiresAt := some 30000000
  claimedBy := some "email-delivery-worker-1"
  claimToken := some 5
  replayId := none
  readAt := none
  deliveredAt := none
  providerMessageId := none
  lastErrorCode := none
  lastErrorMessage := none
  createdAt := 0
  updatedAt := 0

def helloNotification : Notification where
  id := 3
  sourceService := "billing"
  message := "hello"
  severity := .info
  audienceType := .all
  audience := .obj [("type", .str "all")]
  channels := ["email"]
  idempotencyKey := some "hello"
  payloadFingerprint := ""
  deduplicationHash := none
  deduplicationWindowStart := none
  recipientCount := 1
  deliveryCount := 1
  createdAt := 0

def helloUser : EmailUser := ⟨4, "user@example.test", "User Example"⟩

/-- The replies from the greeting on. -/
def replies (codes : List ℤ) : Conversation := ⟨none, codes.map fun code => .reply code "text"⟩

def helloMessage : EmailMessage where
  sender := "notifications@example.test"
  recipient := "user@example.test"
  subject := "hello"
  messageId := "<notification-00000000-0000-0000-0000-000000000001@example.test>"
  plainBody := "hello"
  htmlBody := "hello"

theorem helloAdapter_message :
    helloAdapter.message helloDelivery helloNotification helloUser = .ok helloMessage := by
  decide +kernel

/-- The server takes the message over, and answers `QUIT` by 421. -/
theorem not_delivered_of_sent :
    (∃ c, helloAdapter.Sends (replies [220, 250, 250, 250, 354, 250, 421]) helloDelivery
      helloNotification helloUser c) ∧
    helloAdapter.Reports (replies [220, 250, 250, 250, 354, 250, 421]) helloDelivery
      helloNotification helloUser .failedRetryable ∧
    ¬ helloAdapter.Reports (replies [220, 250, 250, 250, 354, 250, 421]) helloDelivery
      helloNotification helloUser .delivered := by
  refine ⟨⟨_, _, rfl, _, rfl, rfl⟩, ⟨_, rfl, rfl⟩, fun ⟨outcome, h_deliver, h_status⟩ => ?_⟩
  obtain rfl := Except.ok.inj h_deliver
  exact absurd h_status (by decide +kernel)

/-- With 221 it is reported as delivered. -/
theorem delivered_of_sent :
    helloAdapter.Reports (replies [220, 250, 250, 250, 354, 250, 221]) helloDelivery
      helloNotification helloUser .delivered ∧
    (helloAdapter.transcript (replies [220, 250, 250, 250, 354, 250, 221]) helloMessage).any
      Exchange.accepts = true := by
  obtain ⟨h_sends, -, h_accepts⟩ := delivered_iff_sent helloAdapter
    (replies [220, 250, 250, 250, 354, 250, 221]) helloDelivery helloNotification helloUser
  have h_reports : helloAdapter.Reports (replies [220, 250, 250, 250, 354, 250, 221])
      helloDelivery helloNotification helloUser .delivered := ⟨_, rfl, rfl⟩
  exact ⟨h_reports, (h_accepts helloMessage helloAdapter_message).mp (h_sends h_reports)⟩

/-- The only recipient does not exist, and the message is to be sent again. -/
theorem not_rejection_reported :
    ⟨.rcpt "user@example.test", .reply 550 "text"⟩ ∈
      helloAdapter.transcript (replies [220, 250, 250, 550, 250, 221]) helloMessage ∧
    helloAdapter.Reports (replies [220, 250, 250, 550, 250, 221]) helloDelivery
      helloNotification helloUser .failedRetryable ∧
    ¬ helloAdapter.Reports (replies [220, 250, 250, 550, 250, 221]) helloDelivery
      helloNotification helloUser .failedTerminal := by
  refine ⟨by decide +kernel, ⟨_, rfl, rfl⟩, fun ⟨outcome, h_deliver, h_status⟩ => ?_⟩
  obtain rfl := Except.ok.inj h_deliver
  exact absurd h_status (by decide +kernel)

/-- The sender is refused for good. -/
theorem rejection_reported_sender :
    helloAdapter.Reports (replies [220, 250, 550, 250, 221]) helloDelivery helloNotification
      helloUser .failedTerminal := by
  have h_transcript : helloAdapter.transcript (replies [220, 250, 550, 250, 221]) helloMessage =
      [⟨.connect, .reply 220 "text"⟩, ⟨.ehlo, .reply 250 "text"⟩, ⟨.mail, .reply 550 "text"⟩,
        ⟨.rset, .reply 250 "text"⟩, ⟨.quit, .reply 221 "text"⟩] := by decide +kernel
  have h_rejection := (rejection_reported (replies [220, 250, 550, 250, 221])
    helloAdapter_message (by decide +kernel)).1 .mail 550 "text" (by rw [h_transcript]; decide)
    (by decide) fun code text h_mem => by
      rw [h_transcript] at h_mem
      simp only [List.mem_cons, Exchange.mk.injEq, reduceCtorEq, false_and,
        Python.Smtp.Event.reply.injEq, true_and, List.not_mem_nil, or_false, false_or] at h_mem
      exact h_mem.1
  exact (h_rejection.mpr (by decide)).2 (by decide)

end EmailDeliveryAdapter

end NotificationBroker
