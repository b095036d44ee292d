import NotificationBroker.Framework.Precedence
import NotificationBroker.Framework.Segments
import NotificationBroker.Properties.DeliveryAttempts

/-!
# Marking a web notification as read

`mark_read` reads the delivery's row, and writes `read_at` by primary key if the
row it has read was unread. Between the two another call can do the same: the
`UPDATE` of the slower one waits for the row lock and then overwrites the mark,
since its `WHERE` clause names the primary key alone.

`ReadsOnce` is what the check is for, that the mark is written once and that every
response reports it. Two overlapping calls break it (`not_readsOnce`). It holds of
every run in which no call writes between the query and the write of another one
(`WritesApart`), since a call only writes directly after a query that has found the
row unread. Calls that come one after the other are such
(`Deployment.ReadsConsecutive.writesApart`).
-/

namespace NotificationBroker

open Interleave Python
open ReadCommitted (Table Grows)

/-- A read mark that is committed stays, and every call that has returned reports
it. -/
def ReadsOnce : Prop :=
  ∀ (d : Deployment) (clock : Instant) (directory : Directory) (ls : Schedule) (c : State),
    d.Run clock directory ls c →
    (∀ p userId deliveryId result, d.calls p = .markRead userId deliveryId →
      c.prog p = some (.ret (.ok (.read result))) → result.webNotificationId = deliveryId ∧
        ∃ r ∈ c.world.deliveries.committed, r.id = deliveryId ∧
          r.readAt = some result.readAt) ∧
    ∀ ls' c', surroundings.run c ls' = some c' → ∀ r ∈ c.world.deliveries.committed, ∀ readAt,
      r.readAt = some readAt →
      ∃ r' ∈ c'.world.deliveries.committed, r'.id = r.id ∧ r'.readAt = some readAt

/-- One web notification, delivered, and two calls that mark it as read. -/
def readersDeployment : Deployment := .ofCalls id [
  .createNotification ⟨3600000000⟩ "orders" (.toAll [.web] postInit_web) none,
  .consume {} "consumer" (.requested 11 10),
  .processDueDeliveries ⟨[.web], none, "worker", 60000000, 30000000⟩ 10,
  .markRead 1 22,
  .markRead 1 22]

/-- The notification is created, fanned out and delivered. -/
def deliveredSchedule : Schedule := [
  .run 0 (.time (.ofInstant 0)), .run 0 .go, .run 0 (.fresh 10), .run 0 (.fresh 11),
  .run 1 .go, .run 1 (.time (.ofInstant 0)), .run 1 .go, .run 1 .go, .run 1 .go,
  .run 1 (.fresh 21), .run 1 .go, .run 1 .go, .run 1 (.fresh 22), .run 1 .go, .run 1 .go,
  .run 2 (.time (.ofInstant 5)), .run 2 (.claim [] [31]), .run 2 .go, .run 2 .go,
  .run 2 (.adapter (.ok ⟨.delivered, none, none, none⟩)), .run 2 (.fresh 33)]

/-- The first call has read the row and not written it when the second reads it. -/
def overlappingReads : Schedule := deliveredSchedule ++ [
  .run 3 (.time (.ofInstant 9)), .run 3 .go,
  .run 4 (.time (.ofInstant 12)), .run 4 .go,
  .run 3 .go]

/-- The second call overwrites the mark of the first. -/
theorem not_readsOnce : ¬ ReadsOnce := by
  intro h_claim
  obtain ⟨c, h_run, h_marked⟩ := readersDeployment.exists_run 0 (.ofUsers [1] (by decide))
    overlappingReads (fun c => decide (
      c.world.deliveries.committed.map Delivery.readAt = [some 9] ∧
      ((surroundings.run c [.run 4 .go]).map fun c' =>
        c'.world.deliveries.committed.map Delivery.readAt) = some [some 12])) (by decide +kernel)
  obtain ⟨h_before, h_after⟩ := of_decide_eq_true h_marked
  obtain ⟨c', h_step, h_rows'⟩ := Option.map_eq_some_iff.mp h_after
  have h_row : some 9 ∈ c.world.deliveries.committed.map Delivery.readAt := by
    rw [h_before]
    exact List.mem_singleton_self _
  -- the row has its mark, and the next write changes it
  obtain ⟨r, hr, h_read⟩ := List.mem_map.mp h_row
  obtain ⟨r', hr', -, h_read'⟩ := (h_claim readersDeployment 0 _ overlappingReads c h_run).2 _ c'
    h_step r hr 9 h_read
  have h_mem := List.mem_map_of_mem (f := Delivery.readAt) hr'
  rw [h_rows', h_read', List.mem_singleton] at h_mem
  exact absurd h_mem (by decide)

/-! ### Marks that are written once -/

/-- The event is not the write of a read mark to a row that has one. -/
def Event.marksUnread (w : World) : Event → Prop
  | .readMarked _ deliveryId =>
    ∀ r ∈ w.deliveries.committed, r.id = deliveryId → r.readAt = none
  | _ => True

/-- Marks are written to rows that have none. -/
def MarksUnread (w w' : World) : Prop := ∀ e ∈ newEvents w w', e.marksUnread w

/-- No mark is written to the row. -/
def NotMarked (deliveryId : UUID) (w w' : World) : Prop :=
  ∀ q, .readMarked q deliveryId ∉ newEvents w w'

/-- The query of `mark_read` finds the row, and it has no mark. -/
def FindsUnread (p : Pid) (deliveryId : UUID) (w w' : World) : Prop :=
  w' = w ∧ ∃ userId r, getVisibleWebDeliveryForUser (w.deliveries.visible p) deliveryId userId =
    some r ∧ r.readAt = none

/-- Between the action of a process before it writes a mark, which is its query, and the write, no
other process writes a mark to the row. -/
def Deployment.WritesApart (d : Deployment) (clock : Instant) (directory : Directory)
    (ls : Schedule) : Prop :=
  ∀ ls₀ p i ls₁ j ls₂ c₀ c₁ c₂ deliveryId,
    ls = ls₀ ++ .run p i :: (ls₁ ++ .run p j :: ls₂) → (∀ k, .run p k ∉ ls₁) →
    d.Run clock directory (ls₀ ++ [.run p i]) c₀ → surroundings.run c₀ ls₁ = some c₁ →
    surroundings.step c₁ (.run p j) = some c₂ →
    .readMarked p deliveryId ∈ newEvents c₁.world c₂.world →
    surroundings.StepsMeet (NotMarked deliveryId) c₀ ls₁

namespace Delivery

/-- The row is still there, with its read mark if it has one. -/
def ReadKept (r r' : Delivery) : Prop :=
  r'.id = r.id ∧ ∀ readAt, r.readAt = some readAt → r'.readAt = some readAt

/-- The row is still there, and the row in question still without a mark. -/
def UnreadKept (deliveryId : UUID) (r r' : Delivery) : Prop :=
  r'.id = r.id ∧ (r.id = deliveryId → r.readAt = none → r'.readAt = none)

namespace ReadKept

theorem refl (r : Delivery) : r.ReadKept r := ⟨rfl, fun _ h => h⟩

theorem trans {r r' r'' : Delivery} (h : r.ReadKept r') (h' : r'.ReadKept r'') :
    r.ReadKept r'' :=
  ⟨h'.1.trans h.1, fun readAt h_read => h'.2 readAt (h.2 readAt h_read)⟩

end ReadKept

namespace UnreadKept

variable {deliveryId : UUID}

theorem refl (r : Delivery) : r.UnreadKept deliveryId r := ⟨rfl, fun _ h => h⟩

theorem trans {r r' r'' : Delivery} (h : r.UnreadKept deliveryId r')
    (h' : r'.UnreadKept deliveryId r'') : r.UnreadKept deliveryId r'' :=
  ⟨h'.1.trans h.1, fun h_id h_none => h'.2 (h.1.trans h_id) (h.2 h_id h_none)⟩

end UnreadKept

/-- A move keeps the mark of the row, or writes one to it. -/
def MarkMoved (w w' : World) (r r' : Delivery) : Prop :=
  r'.id = r.id ∧ (r'.readAt = r.readAt ∨ ∃ q, .readMarked q r.id ∈ newEvents w w')

theorem MarkMoved.refl {w w' : World} (r : Delivery) : r.MarkMoved w w' r := ⟨rfl, .inl rfl⟩

end Delivery

section Moves

variable {d : Deployment} {p : Pid} {w w' : World} {deliveryId : UUID}

/-- Of the writers of the table only `mark_read` sets `read_at`. -/
theorem Effect.markMoved (h : Effect d p w w') :
    Grows (Delivery.MarkMoved w w') w.deliveries.committed w'.deliveries.committed := by
  cases h with
  | claimDeliveries now leaseExpiresAt workerId channels tokens claims =>
    refine .map fun r _ => ?_
    -- neither a claim nor a finalization writes the mark
    unfold Delivery.applyClaims
    split
    · exact ⟨rfl, .inl rfl⟩
    · exact .refl r
  | finalizeDelivery =>
    refine .map fun r _ => ?_
    split
    · exact ⟨rfl, .inl rfl⟩
    · exact .refl r
  | markRead deliveryId readAt =>
    refine .map fun r _ => ?_
    split
    next h_id =>
      -- the write of a mark is an event of its own
      refine ⟨rfl, .inr ⟨p, ?_⟩⟩
      rw [newEvents_of_append rfl, h_id]
      exact List.mem_singleton_self _
    next => exact .refl r
  | commitFanout => exact .append Delivery.MarkMoved.refl _ _
  | _ => exact .refl Delivery.MarkMoved.refl _

theorem WorldMove.markMoved (h : WorldMove d w w') :
    Grows (Delivery.MarkMoved w w') w.deliveries.committed w'.deliveries.committed := by
  cases h with
  | act p h =>
    cases h with
    | effect h => exact h.markMoved
    | finish h =>
      cases h with
      | commitNotification => exact .refl Delivery.MarkMoved.refl _
      | commitRetry requester notificationId eligible skipped =>
        -- a replay leaves the mark alone
        refine .map fun r _ => ⟨?_, .inl ?_⟩
        · show (if r.replayable eligible skipped then _ else r).id = r.id
          split <;> rfl
        · show (if r.replayable eligible skipped then _ else r).readAt = r.readAt
          split <;> rfl
  | env e h =>
    obtain ⟨clock, directory, rfl⟩ := env_apply h
    exact .refl Delivery.MarkMoved.refl _
  | abort p h => exact h ▸ .refl Delivery.MarkMoved.refl _

/-- If only unread rows are marked, then the marks stay. -/
theorem WorldMove.readKept (h : WorldMove d w w') (h_marks : MarksUnread w w') :
    Grows Delivery.ReadKept w.deliveries.committed w'.deliveries.committed := by
  refine h.markMoved.imp_of_mem fun {r r'} hr h_moved => ⟨h_moved.1, fun readAt h_read => ?_⟩
  rcases h_moved.2 with h_same | ⟨q, h_event⟩
  · exact h_same.trans h_read
  · have h_none : r.readAt = none := h_marks _ h_event r hr rfl
    rw [h_none] at h_read
    exact absurd h_read (by simp)

/-- A row that is not marked is as unread as before. -/
theorem WorldMove.unreadKept (h : WorldMove d w w') (h_not : NotMarked deliveryId w w') :
    Grows (Delivery.UnreadKept deliveryId) w.deliveries.committed w'.deliveries.committed := by
  refine h.markMoved.imp fun h_moved => ⟨h_moved.1, fun h_id h_none => ?_⟩
  rcases h_moved.2 with h_same | ⟨q, h_event⟩
  · exact h_same.trans h_none
  · exact absurd (h_id ▸ h_event) (h_not q)

/-- A step that records something else writes no mark. -/
theorem notMarked_of_append {events : List Event} (h : w'.history = w.history ++ events)
    (h_not : ∀ q, .readMarked q deliveryId ∉ events) : NotMarked deliveryId w w' := by
  intro q
  rw [newEvents_of_append h]
  exact h_not q

theorem notMarked_of_history (h : w'.history = w.history) : NotMarked deliveryId w w' :=
  notMarked_of_append (h.trans (List.append_nil _).symm) fun _ => List.not_mem_nil

/-- Only a call of `mark_read` writes marks, and it records them as its own. -/
theorem Effect.marker {q : Pid} (h : Effect d q w w')
    (h_event : .readMarked p deliveryId ∈ newEvents w w') :
    p = q ∧ (d.calls q).part = .reader ∧ ∃ readAt, ∀ r ∈ w.deliveries.committed,
      r.id = deliveryId → r.markRead readAt ∈ w'.deliveries.committed := by
  cases h with
  | markRead _ readAt _ h_call =>
    rw [newEvents_of_append rfl, List.mem_singleton, Event.readMarked.injEq] at h_event
    obtain ⟨h_pid, rfl⟩ := h_event
    exact ⟨h_pid, h_call, readAt, fun r hr h_id => List.mem_map.mpr ⟨r, hr, if_pos h_id⟩⟩
  | readClock | commitFanout | claimDeliveries | loadContext | missContext | beginSend
  | finalizeDelivery | missDelivery | finalizeEvent | missEvent =>
    rw [newEvents_of_append rfl, List.mem_singleton] at h_event
    exact absurd h_event (by simp)
  | _ => exact absurd h_event (not_mem_newEvents rfl)

/-- **A mark is written directly after a query that has found the row unread.** -/
theorem markRead_directlyAfter (sha256 : String → String) (userId webNotificationId : UUID) :
    Prog.DirectlyAfter p (FindsUnread p deliveryId) (NotMarked deliveryId) False
      ((Call.markRead userId webNotificationId).program sha256) := by
  -- the clock
  intro i w r w' hf
  cases i with
  | time value =>
    simp only [Option.some.injEq, Prod.mk.injEq] at hf
    obtain ⟨rfl, rfl⟩ := hf
    refine ⟨.inr (notMarked_of_append rfl (by simp)), ?_⟩
    cases value.utcoffset with
    | none => trivial
    | some offset =>
      -- the query
      intro i₁ w₁ found w₂ hf₁
      simp only [Option.some.injEq, Prod.mk.injEq] at hf₁
      obtain ⟨h_find, rfl⟩ := hf₁
      refine ⟨.inr (notMarked_of_history rfl), ?_⟩
      cases found with
      | none =>
        intro i₂ w₂ u w₃ hf₂
        simp only [Option.some.injEq, Prod.mk.injEq] at hf₂
        obtain ⟨-, rfl⟩ := hf₂
        exact ⟨.inr (notMarked_of_history rfl), trivial⟩
      | some delivery =>
        cases h_read : delivery.readAt with
        | some earlier =>
          simp only [Prog.bind, ExceptT.bindCont, h_read]
          trivial
        | none =>
          simp only [Prog.bind, ExceptT.bindCont, h_read]
          -- the write
          intro i₂ w₂ u w₃ hf₂
          simp only [Option.some.injEq, Prod.mk.injEq] at hf₂
          obtain ⟨-, rfl⟩ := hf₂
          refine ⟨?_, trivial⟩
          by_cases h_id : delivery.id = deliveryId
          · have h_same := (getVisibleWebDeliveryForUser_some h_find).2.1
            exact .inl ⟨rfl, userId, delivery, h_same.symm.trans h_id ▸ h_find, h_read⟩
          · exact .inr (notMarked_of_append rfl (by simpa using Ne.symm h_id))
  | _ => exact absurd hf (by simp)

end Moves

section Runs

variable {d : Deployment} {clock : Instant} {directory : Directory} {ls ls' : Schedule}
  {c c' : State}

/-- The marks that are there stay, along a run that writes none twice. -/
theorem Deployment.Run.readKept (h : d.Run clock directory ls c)
    (h_run : surroundings.run c ls' = some c') (h_meet : surroundings.StepsMeet MarksUnread c ls') :
    Grows Delivery.ReadKept c.world.deliveries.committed c'.world.deliveries.committed :=
  h.verified.invariant (contract_discipline d)
    (P := fun w => Grows Delivery.ReadKept c.world.deliveries.committed w.deliveries.committed)
    (fun _ _ _ hP hM h_marks => hP.trans Delivery.ReadKept.trans (WorldMove.readKept hM h_marks))
    (.refl Delivery.ReadKept.refl _) h_run h_meet

/-- A row with the identifier and the mark. -/
def World.ReadAt (w : World) (deliveryId : UUID) (readAt : Instant) : Prop :=
  ∃ r ∈ w.deliveries.committed, r.id = deliveryId ∧ r.readAt = some readAt

theorem Deployment.Run.readAt (h : d.Run clock directory ls c)
    (h_run : surroundings.run c ls' = some c') (h_meet : surroundings.StepsMeet MarksUnread c ls')
    {deliveryId : UUID} {readAt : Instant} (h_read : c.world.ReadAt deliveryId readAt) :
    c'.world.ReadAt deliveryId readAt := by
  obtain ⟨r, hr, rfl, h_r⟩ := h_read
  obtain ⟨r', hr', h_id, h_kept⟩ := (h.readKept h_run h_meet).mem hr
  exact ⟨r', hr', h_id, h_kept readAt h_r⟩

/-- What the query finds is a committed row: the rows of a fan-out that is still
open have not been delivered. -/
theorem Deployment.Run.visible_committed (h : d.Run clock directory ls c) {p : Pid}
    {deliveryId userId : UUID} {r : Delivery}
    (h_find : getVisibleWebDeliveryForUser (c.world.deliveries.visible p) deliveryId userId =
      some r) : r ∈ c.world.deliveries.committed := by
  obtain ⟨h_mem, -, -, -, h_status, -⟩ := getVisibleWebDeliveryForUser_some h_find
  rcases Table.mem_visible.mp h_mem with h_com | h_own
  · exact h_com
  · obtain ⟨notificationId, userId, recipientId, channel, nextAttemptAt, h_row⟩ :=
      h.attemptLog.own p r h_own
    rw [h_row] at h_status
    exact absurd h_status (by simp [NotificationFanoutService.deliveryValues])

/-- The step that writes a mark is one of the process that has it recorded. -/
theorem Deployment.Run.marker (h : d.Run clock directory ls c) {l : Label Pid Choice EnvMove}
    (h_step : surroundings.step c l = some c') {p : Pid} {deliveryId : UUID}
    (h_event : .readMarked p deliveryId ∈ newEvents c.world c'.world) :
    (∃ i, l = .run p i) ∧ (d.calls p).part = .reader ∧
      ∃ readAt, ∀ r ∈ c.world.deliveries.committed, r.id = deliveryId →
        r.markRead readAt ∈ c'.world.deliveries.committed := by
  cases l with
  | run q i =>
    cases h.act h_step with
    | effect h_effect =>
      obtain ⟨rfl, h_marker⟩ := h_effect.marker h_event
      exact ⟨⟨i, rfl⟩, h_marker⟩
    | finish h_finish => exact absurd h_event (not_mem_newEvents h_finish.history)
  | crash q =>
    obtain ⟨_, _, _, -, rfl⟩ := Machine.step_crash h_step
    exact absurd h_event (not_mem_newEvents rfl)
  | env e =>
    obtain ⟨w, h_env, rfl⟩ := Machine.step_env h_step
    obtain ⟨clock, directory, rfl⟩ := env_apply h_env
    exact absurd h_event (not_mem_newEvents rfl)

/-- **The query before a write** has found the row, and found it unread. The process has done
nothing since. -/
theorem Deployment.Run.query_before_write (h : d.Run clock directory ls c)
    {l : Label Pid Choice EnvMove} (h_step : surroundings.step c l = some c') {p : Pid}
    {deliveryId : UUID} (h_event : .readMarked p deliveryId ∈ newEvents c.world c'.world) :
    ∃ ls₀ i ls₁ c₀, ls = ls₀ ++ .run p i :: ls₁ ∧ (∀ j, .run p j ∉ ls₁) ∧
      d.Run clock directory (ls₀ ++ [.run p i]) c₀ ∧ surroundings.run c₀ ls₁ = some c ∧
      ∃ r ∈ c₀.world.deliveries.committed, r.id = deliveryId ∧ r.readAt = none := by
  obtain ⟨⟨j, rfl⟩, h_part, -⟩ := h.marker h_step h_event
  obtain ⟨userId, webNotificationId, h_call⟩ := Call.of_reader h_part
  have h_prog : (d.start clock directory).prog p =
      some ((Call.markRead userId webNotificationId).program d.sha256) :=
    congrArg (fun call : Call => some (call.program d.sha256)) h_call
  have h_after : Prog.DirectlyAfter p (FindsUnread p deliveryId) (NotMarked deliveryId) False _ :=
    markRead_directlyAfter d.sha256 userId webNotificationId
  -- the write is directly behind the query in the program of the call
  rcases Machine.directly_after h h_prog h_after h_step with h_not | h_took
  · exact absurd h_event (h_not p)
  · obtain ⟨ls₀, i, ls₁, c₀, c₁, rfl, h_quiet, h₀, h_query, h_same, _, r, h_find, h_none⟩ := h_took
    have h_run₀ : d.Run clock directory ls₀ c₀ := h₀
    exact ⟨ls₀, i, ls₁, c₁, rfl, h_quiet, Machine.run_snoc h₀ h_query,
      Machine.run_split ls₀ h h₀ h_query, r, h_same ▸ h_run₀.visible_committed h_find,
      (getVisibleWebDeliveryForUser_some h_find).2.1, h_none⟩

/-- Rows that are not marked are as unread as before. -/
theorem Deployment.Run.unreadKept (h : d.Run clock directory ls c) {deliveryId : UUID}
    (h_run : surroundings.run c ls' = some c')
    (h_meet : surroundings.StepsMeet (NotMarked deliveryId) c ls') :
    Grows (Delivery.UnreadKept deliveryId) c.world.deliveries.committed
      c'.world.deliveries.committed :=
  h.verified.invariant (contract_discipline d)
    (P := fun w => Grows (Delivery.UnreadKept deliveryId) c.world.deliveries.committed
      w.deliveries.committed)
    (fun _ _ _ hP hM h_not => hP.trans Delivery.UnreadKept.trans (WorldMove.unreadKept hM h_not))
    (.refl Delivery.UnreadKept.refl _) h_run h_meet

/-- **Each write finds `NULL`**: its query has found the row unread, and nobody has marked the row
since. -/
theorem Deployment.WritesApart.marksUnread (h : d.WritesApart clock directory ls) :
    surroundings.StepsMeet MarksUnread (d.start clock directory) ls := by
  refine Machine.stepsMeet_of_forall fun ls₀ l ls₁ c₀ c₁ h_eq h₀ h_step e h_event => ?_
  have h_run₀ : d.Run clock directory ls₀ c₀ := h₀
  cases e with
  | readMarked p deliveryId =>
    obtain ⟨ls₂, i, ls₃, c₂, rfl, h_quiet, h_run₂, h_between, r, hr, h_id, h_none⟩ :=
      h_run₀.query_before_write h_step h_event
    obtain ⟨⟨j, rfl⟩, -⟩ := h_run₀.marker h_step h_event
    -- from the query to the write
    have h_meet := h ls₂ p i ls₃ j ls₁ c₂ c₀ c₁ deliveryId (by simp [h_eq]) h_quiet h_run₂
      h_between h_step h_event
    obtain ⟨r', hr', h_same, h_unread⟩ := (h_run₂.unreadKept h_between h_meet).mem hr
    -- the write
    intro x hx h_x
    rw [h_run₀.sound.committed_delivery_eq hx hr' (h_x.trans (h_same.trans h_id).symm)]
    exact h_unread h_id h_none
  | _ => trivial

/-- The condition is exact: a write between the query and the write of a call leaves a mark, and
the call writes another one over it. -/
theorem writesApart_iff_marksUnread : d.WritesApart clock directory ls ↔
    surroundings.StepsMeet MarksUnread (d.start clock directory) ls := by
  refine ⟨Deployment.WritesApart.marksUnread, fun h_meet => ?_⟩
  rintro ls₀ p i ls₁ j ls₂ c₀ c₁ c₂ deliveryId rfl - h₀ h₁ h_step h_event
  refine Machine.stepsMeet_of_forall fun ls₃ l ls₄ c₃ c₄ h_eq h₃ h_step' q h_event' => ?_
  have h_run₀ : d.Run clock directory (ls₀ ++ [.run p i]) c₀ := h₀
  have h_run₃ : d.Run clock directory _ c₃ := Machine.run_trans h₀ h₃
  have h_run₄ : d.Run clock directory _ c₄ := Machine.run_snoc h_run₃ h_step'
  -- the write in between is one to a row that is there
  obtain ⟨ls₅, i', ls₆, c₅, -, -, h_run₅, h₅, r, hr, h_id, -⟩ :=
    h_run₃.query_before_write h_step' h_event'
  obtain ⟨r', hr', h_follows⟩ := (h_run₅.deliveries_follow h₅).mem hr
  have h_id' : r'.id = deliveryId := by
    have h_key := h_follows.key
    simp only [Delivery.key, Prod.mk.injEq] at h_key
    exact h_key.1.trans h_id
  obtain ⟨-, -, readAt, h_written⟩ := h_run₃.marker h_step' h_event'
  -- the mark is still there when the call writes
  rw [List.append_cons] at h_meet
  have h_meet₁ := Machine.stepsMeet_append h₁ (Machine.stepsMeet_append h₀ h_meet).2
  have h_meet₄ := ((Machine.stepsMeet_append h₃ (h_eq ▸ h_meet₁.1)).2 c₄ h_step').2
  obtain ⟨x, hx, h_x, h_read⟩ := h_run₄.readAt (Machine.run_split ls₃ (h_eq ▸ h₁) h₃ h_step')
    h_meet₄ ⟨_, h_written r' hr' h_id', h_id', rfl⟩
  have h_none : x.readAt = none := (h_meet₁.2 c₂ h_step).1 _ h_event x hx h_x
  rw [h_none] at h_read
  exact absurd h_read (by simp)

/-- **What a call of `mark_read` returns** is the mark the row has: the one it has
read, or the one it has written. -/
theorem Deployment.Run.markRead_result (h : d.Run clock directory ls c)
    (h_meet : surroundings.StepsMeet MarksUnread (d.start clock directory) ls) {p : Pid}
    {userId deliveryId : UUID} (h_call : d.calls p = .markRead userId deliveryId)
    {result : MarkWebNotificationReadResult}
    (h_ret : c.prog p = some (.ret (.ok (.read result)))) :
    result.webNotificationId = deliveryId ∧ c.world.ReadAt deliveryId result.readAt := by
  have h_start : (d.start clock directory).prog p =
      some ((Call.markRead userId deliveryId).program d.sha256) :=
    congrArg (fun call : Call => some (call.program d.sha256)) h_call
  -- the clock
  obtain ⟨ls₀, i, ls₁, c₀, c₁, r, rfl, h₀, hf, hp, h_step, h_rest⟩ :=
    Machine.run_act h h_start h_ret
  have h_meet₁ := ((Machine.stepsMeet_append h₀ h_meet).2 c₁ h_step).2
  have h₁ : d.Run clock directory _ c₁ := Machine.run_snoc h₀ h_step
  cases i with
  | time value =>
    simp only [Option.some.injEq, Prod.mk.injEq] at hf
    obtain ⟨rfl, -⟩ := hf
    cases h_offset : value.utcoffset with
    | none =>
      rw [h_offset] at hp
      exact absurd ((Machine.run_ret h_rest hp).symm.trans h_ret) (by simp)
    | some offset =>
      rw [h_offset] at hp
      -- the query
      obtain ⟨ls₂, i₂, ls₃, c₂, c₃, found, rfl, h₂, hf₂, hp₂, h_step₂, h_rest₂⟩ :=
        Machine.run_act h_rest hp h_ret
      simp only [Option.some.injEq, Prod.mk.injEq] at hf₂
      obtain ⟨h_find, h_world⟩ := hf₂
      have h_meet₃ := ((Machine.stepsMeet_append h₂ h_meet₁).2 c₃ h_step₂).2
      have h_run₂ : d.Run clock directory _ c₂ := Machine.run_trans h₁ h₂
      have h_run₃ : d.Run clock directory _ c₃ := Machine.run_snoc h_run₂ h_step₂
      cases found with
      | none =>
        obtain ⟨ls₄, i₄, ls₅, c₄, c₅, u, -, -, -, hp₄, -, h_rest₄⟩ :=
          Machine.run_act h_rest₂ hp₂ h_ret
        exact absurd ((Machine.run_ret h_rest₄ hp₄).symm.trans h_ret) (by simp)
      | some delivery =>
        have h_mem := h_world ▸ h_run₂.visible_committed h_find
        have h_id := (getVisibleWebDeliveryForUser_some h_find).2.1
        cases h_read : delivery.readAt with
        | some earlier =>
          simp only [Prog.bind, ExceptT.bindCont, h_read] at hp₂
          have h_end := (Machine.run_ret h_rest₂ hp₂).symm.trans h_ret
          simp only [Option.some.injEq, Prog.ret.injEq, Except.ok.injEq, Answer.read.injEq] at h_end
          subst h_end
          exact ⟨h_id, h_run₃.readAt h_rest₂ h_meet₃ ⟨delivery, h_mem, h_id, h_read⟩⟩
        | none =>
          simp only [Prog.bind, ExceptT.bindCont, h_read] at hp₂
          -- the write
          obtain ⟨ls₄, i₄, ls₅, c₄, c₅, u, rfl, h₄, hf₄, hp₄, h_step₄, h_rest₄⟩ :=
            Machine.run_act h_rest₂ hp₂ h_ret
          have h_meet₄ := Machine.stepsMeet_append h₄ h_meet₃
          have h_run₅ : d.Run clock directory _ c₅ :=
            Machine.run_snoc (Machine.run_trans h_run₃ h₄) h_step₄
          have h_end := (Machine.run_ret h_rest₄ hp₄).symm.trans h_ret
          simp only [Option.some.injEq, Prog.ret.injEq, Except.ok.injEq, Answer.read.injEq] at h_end
          subst h_end
          refine ⟨h_id, h_run₅.readAt h_rest₄ (h_meet₄.2 c₅ h_step₄).2 ?_⟩
          obtain ⟨r, hr, h_same, -⟩ := (h_run₃.readKept h₄ h_meet₄.1).mem h_mem
          simp only [Option.some.injEq, Prod.mk.injEq] at hf₄
          obtain ⟨-, h_world₅⟩ := hf₄
          refine ⟨r.markRead value.instant, ?_, h_same.trans h_id, rfl⟩
          rw [← h_world₅]
          exact List.mem_map.mpr ⟨r, hr, if_pos h_same⟩
  | _ => exact absurd hf (by simp)

/-- **A mark is written once, and every response reports it**, in every run in which no other call
writes a mark between a call's query and its write: each write finds the row without a mark, a
mark that is committed stays, and a call that has returned reports the one that is committed. -/
theorem readsOnce_of_writesApart (h : d.Run clock directory ls c)
    (h_apart : d.WritesApart clock directory ls) :
    surroundings.StepsMeet MarksUnread (d.start clock directory) ls ∧
    (∀ p userId deliveryId result, d.calls p = .markRead userId deliveryId →
      c.prog p = some (.ret (.ok (.read result))) → result.webNotificationId = deliveryId ∧
        ∃ r ∈ c.world.deliveries.committed, r.id = deliveryId ∧
          r.readAt = some result.readAt) ∧
    ∀ ls' c', surroundings.run c ls' = some c' → d.WritesApart clock directory (ls ++ ls') →
      ∀ r ∈ c.world.deliveries.committed, ∀ readAt, r.readAt = some readAt →
        ∃ r' ∈ c'.world.deliveries.committed, r'.id = r.id ∧ r'.readAt = some readAt := by
  have h_meet := h_apart.marksUnread
  refine ⟨h_meet, fun _ _ _ _ h_call h_ret => h.markRead_result h_meet h_call h_ret, ?_⟩
  intro ls' c' h_run h_apart' r hr readAt h_read
  exact h.readAt h_run (Machine.stepsMeet_append h h_apart'.marksUnread).2
    ⟨r, hr, rfl, h_read⟩

end Runs

/-! ### Consecutive calls -/

/-- The call of `mark_read` that takes the step, if it is one's. -/
def Deployment.reader (d : Deployment) : Label Pid Choice EnvMove → Option Pid
  | .run p _ => if (d.calls p).part = .reader then some p else none
  | _ => none

/-- The calls of `mark_read` that take the steps. -/
def Deployment.readers (d : Deployment) (ls : Schedule) : List Pid := ls.filterMap d.reader

/-- No call of `mark_read` takes a step between two steps of another one. -/
def Deployment.ReadsConsecutive (d : Deployment) (ls : Schedule) : Prop :=
  ∀ p ∈ d.readers ls, ∀ q ∈ d.readers ls, p ≠ q → ¬ [p, q, p].Sublist (d.readers ls)

instance (d : Deployment) (ls : Schedule) : Decidable (d.ReadsConsecutive ls) := by
  unfold Deployment.ReadsConsecutive; infer_instance

/-- **Consecutive calls write apart.** -/
theorem Deployment.ReadsConsecutive.writesApart {d : Deployment} {clock : Instant}
    {directory : Directory} {ls : Schedule} (h : d.ReadsConsecutive ls) :
    d.WritesApart clock directory ls := by
  rintro ls₀ p i ls₁ j ls₂ c₀ c₁ c₂ deliveryId rfl h_quiet h₀ h₁ h_step h_event
  have h_p := (Deployment.Run.marker (Machine.run_trans h₀ h₁) h_step h_event).2.1
  refine Machine.stepsMeet_of_forall fun ls₃ l ls₄ c₃ c₄ h_eq h₃ h_step' q h_event' => ?_
  obtain ⟨⟨k, rfl⟩, h_q, -⟩ := Deployment.Run.marker (Machine.run_trans h₀ h₃) h_step' h_event'
  have h_mem : Label.run q k ∈ ls₁ := h_eq ▸ List.mem_append_right _ List.mem_cons_self
  have h_ne : p ≠ q := fun h_same => h_quiet k (h_same ▸ h_mem)
  -- the other call takes its step between the two
  have h_sub : [Label.run p i, .run q k, .run p j].Sublist
      (ls₀ ++ .run p i :: (ls₁ ++ .run p j :: ls₂)) := by
    refine .trans (.cons_cons _ ?_) (List.sublist_append_right ls₀ _)
    exact (List.singleton_sublist.mpr h_mem).append
      (List.singleton_sublist.mpr List.mem_cons_self)
  have h_readers : [p, q, p].Sublist (d.readers (ls₀ ++ .run p i :: (ls₁ ++ .run p j :: ls₂))) := by
    have h_calls := h_sub.filterMap d.reader
    have h_three : [Label.run p i, .run q k, .run p j].filterMap d.reader = [p, q, p] := by
      simp [Deployment.reader, h_p, h_q]
    rwa [h_three] at h_calls
  exact h p (h_readers.subset (by simp)) q (h_readers.subset (by simp)) h_ne h_readers

/-- The second call starts when the first has returned: both report its mark. -/
theorem readsOnce_consecutive :
    ∃ c, readersDeployment.Run 0 (.ofUsers [1] (by decide)) (deliveredSchedule ++ [
        .run 3 (.time (.ofInstant 9)), .run 3 .go, .run 3 .go,
        .run 4 (.time (.ofInstant 12)), .run 4 .go]) c ∧
      c.returned 4 = some (.ok (.read ⟨22, 9⟩)) ∧
      ∃ r ∈ c.world.deliveries.committed, r.id = 22 ∧ r.readAt = some 9 := by
  obtain ⟨c, h_run, h_result⟩ := readersDeployment.exists_run 0 (.ofUsers [1] (by decide))
    (deliveredSchedule ++ [
      .run 3 (.time (.ofInstant 9)), .run 3 .go, .run 3 .go,
      .run 4 (.time (.ofInstant 12)), .run 4 .go])
    (fun c => decide (c.returned 4 = some (.ok (.read ⟨22, 9⟩)))) (by decide +kernel)
  have h_returned := of_decide_eq_true h_result
  refine ⟨c, h_run, h_returned, ?_⟩
  have h_apart := readsOnce_of_writesApart h_run
    (Deployment.ReadsConsecutive.writesApart (by decide +kernel))
  exact (h_apart.2.1 4 1 22 _ rfl (Config.returned_eq.mp h_returned)).2

end NotificationBroker
