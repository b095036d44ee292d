import Mathlib.Data.List.Basic
import NotificationBroker.Python.Smtp

/-!
# What the transcript of a session tells

A transcript says what the server did: it rejected the message by a reply to some command, the
connection was lost while the message depended on it, or the server took the message over
(`Tally`). `sendMessage_told` relates this to how `send_message` ends, for every server and
any number of recipients: it returns only after the server has taken the message over, and
each of its exceptions goes with the rejections of the transcript.
-/

namespace Python.Smtp

/-! ### What a transcript tells -/

def Command.isRcpt : Command → Bool
  | .rcpt _ => true
  | _ => false

/-- The command is answered by a rejection of the message. A server that does not know `EHLO`
is greeted by `HELO`. -/
def Command.rejectedBy (command : Command) (code : ℤ) : Prop :=
  match command with
  | .connect => code ≠ 220
  | .helo => ¬ (200 ≤ code ∧ code ≤ 299)
  | .mail | .message => code ≠ 250
  | .rcpt _ => code ≠ 250 ∧ code ≠ 251
  | .data => code ≠ 354
  | .ehlo | .rset | .quit => False

instance (command : Command) (code : ℤ) : Decidable (command.rejectedBy code) := by
  cases command <;> unfold Command.rejectedBy <;> infer_instance

/-- The rejection that an exchange is, if it is one. -/
def Exchange.rejection (x : Exchange) : Option (Command × ℤ) :=
  match x.event with
  | .reply code _ => if x.command.rejectedBy code then some (x.command, code) else none
  | .failure _ => none

/-- The connection is lost while the message depends on it. -/
def Exchange.isLost (x : Exchange) : Bool :=
  match x.event with
  | .failure _ => x.command ≠ .rset ∧ x.command ≠ .quit
  | .reply _ _ => false

/-- The server takes the message over. -/
def Exchange.accepts (x : Exchange) : Bool :=
  match x.event with
  | .reply code _ => x.command = .message ∧ code = 250
  | .failure _ => false

/-- What a transcript amounts to. -/
structure Tally (t : List Exchange) (rejections : List (Command × ℤ)) (lost accepted : Bool) :
    Prop where
  rejections : t.filterMap Exchange.rejection = rejections
  lost : t.any Exchange.isLost = lost
  accepted : t.any Exchange.accepts = accepted

section Transcripts

variable {t : List Exchange} {rejections : List (Command × ℤ)} {lost accepted : Bool}

theorem tally_nil : Tally [] [] false false := ⟨rfl, rfl, rfl⟩

theorem Tally.say (h : Tally t rejections lost accepted) (x : Exchange) :
    Tally (t ++ [x]) (rejections ++ x.rejection.toList) (lost || x.isLost)
      (accepted || x.accepts) where
  rejections := by
    rw [List.filterMap_append, h.rejections]
    cases h_rejection : x.rejection <;> simp [h_rejection]
  lost := by rw [List.any_append, h.lost]; simp
  accepted := by rw [List.any_append, h.accepted]; simp

/-- A reply that settles nothing. -/
theorem Tally.pass (h : Tally t rejections lost accepted) {command : Command} {code : ℤ}
    (text : String) (h_command : command ≠ .message)
    (h_code : ¬ command.rejectedBy code) :
    Tally (t ++ [⟨command, .reply code text⟩]) rejections lost accepted := by
  have h_say := h.say ⟨command, .reply code text⟩
  simpa [Exchange.rejection, Exchange.isLost, Exchange.accepts, h_code, h_command] using h_say

/-- A reply that rejects the message. -/
theorem Tally.reject (h : Tally t rejections lost accepted) {command : Command} {code : ℤ}
    (text : String) (h_code : command.rejectedBy code) :
    Tally (t ++ [⟨command, .reply code text⟩]) (rejections ++ [(command, code)]) lost accepted := by
  have h_accepts : Exchange.accepts ⟨command, .reply code text⟩ = false := by
    by_contra h_not
    obtain ⟨rfl, rfl⟩ : command = .message ∧ code = 250 := by
      simpa [Exchange.accepts] using h_not
    exact h_code rfl
  have h_say := h.say ⟨command, .reply code text⟩
  rw [h_accepts] at h_say
  simpa [Exchange.rejection, Exchange.isLost, h_code] using h_say

/-- The connection is lost. -/
theorem Tally.lose (h : Tally t rejections lost accepted) (command : Command) (reason : String) :
    ∃ lost', Tally (t ++ [⟨command, .failure reason⟩]) rejections lost' accepted := by
  have h_say := h.say ⟨command, .failure reason⟩
  exact ⟨_, by simpa [Exchange.rejection, Exchange.accepts] using h_say⟩

/-- What becomes of `RSET` and `QUIT` settles nothing. -/
theorem Tally.aside (h : Tally t rejections lost accepted) {command : Command}
    (h_command : command = .rset ∨ command = .quit) (event : Event) :
    Tally (t ++ [⟨command, event⟩]) rejections lost accepted := by
  have h_say := h.say ⟨command, event⟩
  rcases h_command with rfl | rfl <;> cases event <;>
    simpa [Exchange.rejection, Exchange.isLost, Exchange.accepts, Command.rejectedBy] using h_say

end Transcripts

/-! ### Steps of a session -/

section Steps

variable {α : Type} {c : Connection} {rejections : List (Command × ℤ)} {lost accepted : Bool}

/-- A command is answered, or the connection is lost, or it was lost before. -/
theorem exchange_ends {Q : Except SmtpError (ℤ × String) → Connection → Prop} {command : Command}
    (h_reply : ∀ code text c', c'.transcript = c.transcript ++ [⟨command, .reply code text⟩] →
      Q (.ok (code, text)) c')
    (h_lost : ∀ message reason c',
      c'.transcript = c.transcript ++ [⟨command, .failure reason⟩] → c'.isOpen = false →
      Q (.error (.serverDisconnected message)) c')
    (h_closed : ∀ message, c.isOpen = false → Q (.error (.serverDisconnected message)) c) :
    Stateful.Ends Q (exchange command) c := by
  refine Stateful.Ends.step ?_
  split
  · split
    · exact h_reply _ _ _ rfl
    · exact h_lost _ _ _ rfl rfl
    · exact h_lost _ _ _ rfl rfl
  next h_not => exact h_closed _ (Bool.not_eq_true _ ▸ h_not)

/-- A command and what comes after its answer. -/
theorem exchange_bind {Q : Except SmtpError α → Connection → Prop} {command : Command}
    {g : ℤ × String → Session α}
    (h_reply : ∀ code text c', c'.transcript = c.transcript ++ [⟨command, .reply code text⟩] →
      Stateful.Ends Q (g (code, text)) c')
    (h_lost : ∀ message reason c',
      c'.transcript = c.transcript ++ [⟨command, .failure reason⟩] → c'.isOpen = false →
      Q (.error (.serverDisconnected message)) c')
    (h_closed : ∀ message, c.isOpen = false → Q (.error (.serverDisconnected message)) c) :
    Stateful.Ends Q (exchange command >>= g) c :=
  .bind (exchange_ends h_reply h_lost h_closed)

/-- Closing the connection says nothing. -/
theorem close_bind {Q : Except SmtpError α → Connection → Prop} {g : Unit → Session α}
    (h : ∀ c', c'.transcript = c.transcript → c'.isOpen = false → Stateful.Ends Q (g ()) c') :
    Stateful.Ends Q (close >>= g) c :=
  .bind (h _ rfl rfl)

/-- `RSET` settles nothing and does not raise. -/
theorem rset_ends {Q : Except SmtpError Unit → Connection → Prop}
    (h_tally : Tally c.transcript rejections lost accepted)
    (h : ∀ c', Tally c'.transcript rejections lost accepted → Q (.ok ()) c') :
    Stateful.Ends Q rset c := by
  refine Stateful.Ends.tryCatch (Stateful.Ends.bind (exchange_ends ?_ ?_ ?_))
  · exact fun code text c' h_eq => h c' (h_eq ▸ h_tally.aside (.inl rfl) _)
  · exact fun message reason c' h_eq _ => h c' (h_eq ▸ h_tally.aside (.inl rfl) _)
  · exact fun message _ => h c h_tally

/-- A refusal raises. -/
theorem refuse_ends {Q : Except SmtpError Unit → Connection → Prop} {type : ResponseClass}
    {code : ℤ} {text : String} (h_tally : Tally c.transcript rejections lost accepted)
    (h : ∀ c', Tally c'.transcript rejections lost accepted →
      Q (.error (.response type code text)) c') :
    Stateful.Ends Q (refuse type code text) c := by
  unfold refuse
  split
  · exact close_bind fun c' h_eq _ => h c' (h_eq.symm ▸ h_tally)
  · exact .bind (rset_ends h_tally h)

end Steps

/-! ### Sending a message -/

/-- The rejections of a session that has gone on past its recipients. -/
structure PastRcpt (toAddrs : List String) (rejections : List (Command × ℤ)) : Prop where
  isRcpt : ∀ x ∈ rejections, x.1.isRcpt = true
  single : toAddrs.length = 1 → rejections = []

/-- How a session that was to send a message has ended, if it raised then with what, and the
connection it has left. -/
def Told (toAddrs : List String) (raised : Option SmtpError) (c : Connection) : Prop :=
  match raised with
  | none => ∃ refused, Tally c.transcript refused false true ∧ PastRcpt toAddrs refused
  | some (.response _ code _) => ∃ refused command,
      Tally c.transcript (refused ++ [(command, code)]) false false ∧ command.isRcpt = false ∧
        PastRcpt toAddrs refused
  | some (.recipientsRefused _) => ∃ refused, Tally c.transcript refused false false ∧
      (∀ x ∈ refused, x.1.isRcpt = true) ∧ (toAddrs.length = 1 → ∃ address code,
        refused = [(.rcpt address, code)])
  | some (.serverDisconnected _) => ∃ refused lost, Tally c.transcript refused lost false ∧
      PastRcpt toAddrs refused ∧ c.isOpen = false
  | some (.notSupported _) | some (.osError _ _) => Tally c.transcript [] false false

section Sending

variable {c : Connection} {toAddrs : List String}

theorem Told.accepts {raised : Option SmtpError} (h : Told toAddrs raised c) :
    c.transcript.any Exchange.accepts = raised.isNone := by
  match raised, h with
  | none, ⟨_, h_tally, _⟩ => exact h_tally.accepted
  | some (.response ..), ⟨_, _, h_tally, _⟩ => exact h_tally.accepted
  | some (.recipientsRefused _), ⟨_, h_tally, _⟩ => exact h_tally.accepted
  | some (.serverDisconnected _), ⟨_, _, h_tally, _⟩ => exact h_tally.accepted
  | some (.notSupported _), h_tally => exact h_tally.accepted
  | some (.osError ..), h_tally => exact h_tally.accepted

theorem pastRcpt_nil : PastRcpt toAddrs [] := ⟨fun _ h => absurd h List.not_mem_nil, fun _ => rfl⟩

/-- How a step has ended that comes before the recipients. -/
def GoesOn (toAddrs : List String) {α : Type} (r : Except SmtpError α) (c : Connection) : Prop :=
  match r with
  | .ok _ => Tally c.transcript [] false false
  | .error e => Told toAddrs (some e) c

theorem told_disconnected {refused : List (Command × ℤ)} {lost : Bool} (message : String)
    (h : Tally c.transcript refused lost false) (h_past : PastRcpt toAddrs refused)
    (h_open : c.isOpen = false) : Told toAddrs (some (.serverDisconnected message)) c :=
  ⟨refused, lost, h, h_past, h_open⟩

theorem told_lost {refused : List (Command × ℤ)} {lost : Bool} {c' : Connection}
    (message : String) {command : Command} {reason : String}
    (h : Tally c.transcript refused lost false) (h_past : PastRcpt toAddrs refused)
    (h_eq : c'.transcript = c.transcript ++ [⟨command, .failure reason⟩])
    (h_open : c'.isOpen = false) : Told toAddrs (some (.serverDisconnected message)) c' :=
  let ⟨lost', h_lose⟩ := h.lose command reason
  ⟨refused, lost', h_eq ▸ h_lose, h_past, h_open⟩

theorem ehlo_ends (toAddrs : List String) (h : Tally c.transcript [] false false) :
    Stateful.Ends (GoesOn toAddrs) ehlo c := by
  refine exchange_bind ?_ ?_ ?_
  · intro code text c₁ h_eq
    have h₁ : Tally c₁.transcript [] false false := h_eq ▸ h.pass text (by simp) (fun h => h)
    dsimp only
    split
    · refine close_bind fun c₂ h_eq₂ h_open => .throw ?_
      exact told_disconnected "Server not connected" (h_eq₂ ▸ h₁) pastRcpt_nil h_open
    · exact h₁
  · exact fun message reason c₁ h_eq => told_lost message h pastRcpt_nil h_eq
  · exact fun message => told_disconnected message h pastRcpt_nil

/-- The hello of a session. -/
theorem ehloOrHelo_ends (toAddrs : List String) (h : Tally c.transcript [] false false) :
    Stateful.Ends (GoesOn toAddrs) ehloOrHelo c := by
  refine (ehlo_ends toAddrs h).bind_of
    (fun answer c₁ (h₁ : Tally c₁.transcript [] false false) => ?_) fun e c₁ h₁ => h₁
  obtain ⟨code, text⟩ := answer
  dsimp only
  split
  · -- EHLO was accepted
    exact h₁
  · -- it was not: HELO is what counts
    refine exchange_bind ?_ ?_ ?_
    · intro code text c₂ h_eq
      dsimp only
      split
      next h_hello =>
        refine .pure ?_
        rw [GoesOn, h_eq]
        exact h₁.pass text (by simp) (fun h => h h_hello)
      next h_not => exact ⟨[], .helo, h_eq ▸ h₁.reject text h_not, rfl, pastRcpt_nil⟩
    · exact fun message reason c₂ h_eq => told_lost message h₁ pastRcpt_nil h_eq
    · exact fun message => told_disconnected message h₁ pastRcpt_nil

/-- What the loop over the recipients has made of `count` of them: every refused address has
been rejected, by one reply at least. -/
structure Refusals (errors : List (String × ℤ × String)) (count : ℕ)
    (refused : List (Command × ℤ)) : Prop where
  isRcpt : ∀ x ∈ refused, ∃ address code, x = (.rcpt address, code)
  length_le : refused.length ≤ count
  errors_le : errors.length ≤ refused.length
  nil : errors = [] → refused = []

theorem length_setError_le (errors : List (String × ℤ × String)) (address : String) (code : ℤ)
    (text : String) : (setError errors address code text).length ≤ errors.length + 1 := by
  unfold setError
  split
  · rw [List.length_map]
    exact Nat.le_succ _
  · exact Nat.le_of_eq (List.length_append ..)

theorem setError_ne_nil (errors : List (String × ℤ × String)) (address : String) (code : ℤ)
    (text : String) : setError errors address code text ≠ [] := by
  unfold setError
  split
  next h_any =>
    obtain ⟨error, h_mem, -⟩ := List.any_eq_true.mp h_any
    exact fun h_nil => List.ne_nil_of_mem h_mem (List.map_eq_nil_iff.mp h_nil)
  next => simp

namespace Refusals

variable {errors : List (String × ℤ × String)} {count : ℕ} {refused : List (Command × ℤ)}

theorem accept (h : Refusals errors count refused) : Refusals errors (count + 1) refused :=
  ⟨h.isRcpt, Nat.le_trans h.length_le (Nat.le_succ count), h.errors_le, h.nil⟩

theorem refuse (h : Refusals errors count refused) (address : String) (code : ℤ) (text : String) :
    Refusals (setError errors address code text) (count + 1)
      (refused ++ [(.rcpt address, code)]) where
  isRcpt x hx := by
    rcases List.mem_append.mp hx with hx | hx
    · exact h.isRcpt x hx
    · exact ⟨address, code, List.mem_singleton.mp hx⟩
  length_le := by
    rw [List.length_append]
    exact Nat.succ_le_succ h.length_le
  errors_le := by
    rw [List.length_append]
    exact Nat.le_trans (length_setError_le ..) (Nat.succ_le_succ h.errors_le)
  nil h_nil := absurd h_nil (setError_ne_nil errors address code text)

/-- Not all recipients are refused. -/
theorem pastRcpt (h : Refusals errors toAddrs.length refused)
    (h_some : errors.length ≠ toAddrs.length) : PastRcpt toAddrs refused where
  isRcpt x hx := by
    obtain ⟨address, code, rfl⟩ := h.isRcpt x hx
    rfl
  single h_one := by
    have h_length := h.length_le
    have h_errors := h.errors_le
    exact h.nil (List.length_eq_zero_iff.mp (by omega))

/-- The only recipient is refused. -/
theorem single (h : Refusals errors toAddrs.length refused) (h_errors : errors ≠ [])
    (h_one : toAddrs.length = 1) : ∃ address code, refused = [(.rcpt address, code)] := by
  have h_length := h.length_le
  have h_le := h.errors_le
  have h_pos := List.length_pos_iff.mpr h_errors
  obtain ⟨x, rfl⟩ := List.length_eq_one_iff.mp (by omega : refused.length = 1)
  obtain ⟨address, code, rfl⟩ := h.isRcpt x (List.mem_singleton_self x)
  exact ⟨address, code, rfl⟩

end Refusals

theorem told_refused (errors : List (String × ℤ × String)) {refused : List (Command × ℤ)}
    (h : Tally c.transcript refused false false) (h_rcpt : ∀ x ∈ refused,
      ∃ address code, x = (.rcpt address, code)) (h_single : toAddrs.length = 1 →
        ∃ address code, refused = [(.rcpt address, code)]) :
    Told toAddrs (some (.recipientsRefused errors)) c := by
  refine ⟨refused, h, fun x hx => ?_, h_single⟩
  obtain ⟨address, code, rfl⟩ := h_rcpt x hx
  rfl

/-- The recipients, one after the other. -/
theorem rcptAll_ends {errors : List (String × ℤ × String)} {refused : List (Command × ℤ)}
    (before rest : List String) (h_all : toAddrs = before ++ rest)
    (h : Tally c.transcript refused false false)
    (h_refusals : Refusals errors before.length refused) :
    Stateful.Ends (fun r c' => match r with
      | .ok errors' => ∃ refused', Tally c'.transcript refused' false false ∧
          Refusals errors' toAddrs.length refused'
      | .error e => Told toAddrs (some e) c')
      (rcptAll errors rest) c := by
  induction rest generalizing errors refused before c with
  | nil =>
    rw [List.append_nil] at h_all
    exact .pure ⟨refused, h, h_all ▸ h_refusals⟩
  | cons each rest ih =>
    have h_before : toAddrs = (before ++ [each]) ++ rest := by simp [h_all]
    have h_length : (before ++ [each]).length = before.length + 1 := by simp
    -- before the answer, a recipient is still to come
    have h_past : PastRcpt toAddrs refused := by
      refine ⟨fun x hx => ?_, fun h_one => ?_⟩
      · obtain ⟨address, code, rfl⟩ := h_refusals.isRcpt x hx
        rfl
      · have h_le := h_refusals.length_le
        rw [h_all, List.length_append, List.length_cons] at h_one
        exact List.length_eq_zero_iff.mp (by omega)
    refine exchange_bind ?_ ?_ ?_
    · intro code text c₁ h_eq
      by_cases h_ok : code ≠ 250 ∧ code ≠ 251
      · have h₁ : Tally c₁.transcript (refused ++ [(.rcpt each, code)]) false false :=
          h_eq ▸ h.reject text h_ok
        have h_refusals₁ := h_refusals.refuse each code text
        simp only [if_pos h_ok]
        split
        · refine close_bind fun c₂ h_eq₂ h_open => .throw ?_
          refine told_refused _ (h_eq₂ ▸ h₁) h_refusals₁.isRcpt fun h_one => ?_
          exact ⟨each, code, by rw [h_past.single h_one, List.nil_append]⟩
        · exact ih (before ++ [each]) h_before h₁ (h_length ▸ h_refusals₁)
      · have h₁ : Tally c₁.transcript refused false false :=
          h_eq ▸ h.pass text (by simp) h_ok
        simp only [if_neg h_ok]
        rw [if_neg (by omega)]
        exact ih (before ++ [each]) h_before h₁ (h_length ▸ h_refusals.accept)
    · exact fun message reason c₁ h_eq => told_lost message h h_past h_eq
    · exact fun message => told_disconnected message h h_past

/-- The message is handed over to a server that takes it, or the session ends. -/
theorem data_ends {refused : List (Command × ℤ)} (h : Tally c.transcript refused false false)
    (h_past : PastRcpt toAddrs refused) :
    Stateful.Ends (fun r c' => match r with
      | .ok (code, _) =>
        if code = 250 then Tally c'.transcript refused false true
        else Tally c'.transcript (refused ++ [(.message, code)]) false false
      | .error e => Told toAddrs (some e) c') data c := by
  refine exchange_bind ?_ ?_ ?_
  · intro code text c₁ h_eq
    dsimp only
    split
    -- the server does not ask for the message
    next h_code => exact ⟨refused, .data, h_eq ▸ h.reject text h_code, rfl, h_past⟩
    next h_code =>
      -- the message is sent, and one more reply says whether it is accepted
      have h₁ : Tally c₁.transcript refused false false := h_eq ▸ h.pass text (by simp) h_code
      refine exchange_ends ?_ ?_ ?_
      · intro code text c₂ h_eq₂
        dsimp only
        split
        next h_accepted =>
          rw [h_eq₂, h_accepted]
          simpa [Exchange.rejection, Exchange.isLost, Exchange.accepts, Command.rejectedBy]
            using h₁.say ⟨.message, .reply 250 text⟩
        next h_rejected =>
          rw [h_eq₂]
          exact h₁.reject text h_rejected
      · exact fun message reason c₂ h_eq₂ => told_lost message h₁ h_past h_eq₂
      · exact fun message => told_disconnected message h₁ h_past
  · exact fun message reason c₁ h_eq => told_lost message h h_past h_eq
  · exact fun message => told_disconnected message h h_past

/-- How `sendmail` and `send_message` end. -/
def Sent (toAddrs : List String) (r : Except SmtpError Unit) (c : Connection) : Prop :=
  match r with
  | .ok () => Told toAddrs none c
  | .error e => Told toAddrs (some e) c

theorem sendmail_ends (toAddrs : List String) (h : Tally c.transcript [] false false) :
    Stateful.Ends (Sent toAddrs) (sendmail toAddrs) c := by
  refine exchange_bind ?_ ?_ ?_
  · intro code text c₁ h_eq
    dsimp only
    split
    next h_code =>
      -- the sender is refused
      have h₁ : Tally c₁.transcript [(.mail, code)] false false := h_eq ▸ h.reject text h_code
      exact refuse_ends h₁ fun c₂ h₂ => ⟨[], .mail, h₂, rfl, pastRcpt_nil⟩
    next h_code =>
      have h₁ : Tally c₁.transcript [] false false := h_eq ▸ h.pass text (by simp) h_code
      refine (rcptAll_ends [] toAddrs rfl h₁ ?_).bind_of ?_
        fun e c₂ h₂ => h₂
      · exact ⟨fun _ h => absurd h List.not_mem_nil, Nat.le_refl 0, Nat.le_refl 0, fun _ => rfl⟩
      · rintro errors c₂ ⟨refused, h₂, h_refusals⟩
        split
        next h_all =>
          -- every recipient has been refused
          refine .bind (rset_ends h₂ fun c₃ h₃ => .throw ?_)
          refine told_refused errors h₃ h_refusals.isRcpt fun h_one => h_refusals.single ?_ h_one
          exact List.ne_nil_of_length_pos (by omega)
        next h_some =>
          -- one recipient is enough to go on with the message
          have h_past := h_refusals.pastRcpt h_some
          refine (data_ends h₂ h_past).bind_of ?_ fun e c₃ h₃ => h₃
          rintro ⟨code, text⟩ c₃ h₃
          dsimp only at h₃ ⊢
          split
          next h_rejected =>
            rw [if_neg h_rejected] at h₃
            exact refuse_ends h₃ fun c₄ h₄ => ⟨refused, .message, h₄, rfl, h_past⟩
          next h_accepted =>
            rw [if_pos (not_not.mp h_accepted)] at h₃
            exact .pure ⟨refused, h₃, h_past⟩
  · exact fun message reason c₁ h_eq => told_lost message h pastRcpt_nil h_eq
  · exact fun message => told_disconnected message h pastRcpt_nil

/-- **What a session tells**: `send_message` returns only if the server has taken the message
over, and its exceptions go with the rejections. -/
theorem sendMessage_told (envelope : Envelope) (h : Tally c.transcript [] false false) :
    Stateful.Ends (Sent envelope.toAddrs) (sendMessage envelope) c := by
  refine (ehloOrHelo_ends envelope.toAddrs h).bind_of
    (fun extensions c₁ (h₁ : Tally c₁.transcript [] false false) => ?_) fun e c₁ h₁ => h₁
  split
  · exact .throw h₁
  · exact sendmail_ends envelope.toAddrs h₁

/-- The connection and its greeting. -/
theorem connect_ends (toAddrs : List String) (conversation : Conversation)
    (h : Tally c.transcript [] false false) :
    Stateful.Ends (GoesOn toAddrs) (connect conversation) c := by
  unfold connect
  split
  · exact .throw h
  · refine exchange_bind ?_ ?_ ?_
    · intro code text c₁ h_eq
      dsimp only
      split
      -- a greeting other than 220 closes the connection
      next h_code =>
        refine close_bind fun c₂ h_eq₂ h_open => .throw ?_
        exact ⟨[], .connect, h_eq₂ ▸ h_eq ▸ h.reject text h_code, rfl, pastRcpt_nil⟩
      next h_code =>
        refine .pure ?_
        rw [GoesOn, h_eq]
        exact h.pass text (by simp) h_code
    · exact fun message reason c₁ h_eq => told_lost message h pastRcpt_nil h_eq
    · exact fun message => told_disconnected message h pastRcpt_nil

/-! ### Leaving a session -/

/-- No answer but 221 waits for `QUIT`. -/
def Connection.QuitAccepted (c : Connection) : Prop :=
  match c.isOpen, c.events with
  | true, .reply code _ :: _ => code = 221
  | _, _ => True

instance (c : Connection) : Decidable c.QuitAccepted := by
  unfold Connection.QuitAccepted
  split <;> infer_instance

/-- An answer to `QUIT` other than 221 is raised. -/
theorem quit_result {code : ℤ} (h_code : code ≠ 221) (text : String) (rest : List Event)
    (transcript : List Exchange) :
    Stateful.result quit ⟨true, .reply code text :: rest, transcript⟩ =
      (.error (.response .responseException code text),
        ⟨true, rest, transcript ++ [⟨.quit, .reply code text⟩]⟩) := by
  unfold quit
  rw [Stateful.result_tryCatch, Stateful.result_bind]
  change Stateful.orElse _ (Stateful.result (if code ≠ 221 then _ else _) _) = _
  rw [if_pos h_code]
  rfl

/-- Leaving a session, if it raises then with the answer to `QUIT`. -/
theorem exit_result (c : Connection) :
    (c.QuitAccepted ∧ (Stateful.result exit c).1 = .ok () ∧
      ((Stateful.result exit c).2.transcript = c.transcript ∨ ∃ event,
        (Stateful.result exit c).2.transcript = c.transcript ++ [⟨.quit, event⟩])) ∨
    (¬ c.QuitAccepted ∧ c.isOpen = true ∧ ∃ code text, code ≠ 221 ∧
      (Stateful.result exit c).1 = .error (.response .responseException code text) ∧
      (Stateful.result exit c).2.transcript = c.transcript ++ [⟨.quit, .reply code text⟩]) := by
  obtain ⟨isOpen, events, transcript⟩ := c
  cases isOpen with
  | false => exact .inl ⟨trivial, rfl, .inl rfl⟩
  | true =>
    -- the connection is open: QUIT is sent, and a failure of it is ignored
    match events with
    | [] => exact .inl ⟨trivial, rfl, .inr ⟨_, rfl⟩⟩
    | .failure reason :: rest => exact .inl ⟨trivial, rfl, .inr ⟨_, rfl⟩⟩
    | .reply code text :: rest =>
      by_cases h_code : code = 221
      · subst h_code
        exact .inl ⟨rfl, rfl, .inr ⟨_, rfl⟩⟩
      · refine .inr ⟨h_code, rfl, code, text, h_code, ?_⟩
        unfold exit
        rw [Stateful.result_bind, Stateful.result_tryCatch, quit_result h_code]
        exact ⟨rfl, rfl⟩

end Sending

end Python.Smtp
