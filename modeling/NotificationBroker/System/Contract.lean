import NotificationBroker.Framework.RelyGuarantee
import NotificationBroker.System.Rows

/-!
# The contract of the calls

Every call guarantees the effects of `System.Effects`, relies on the others doing
the same (`Relies`), and as long as it is running has committed neither a
notification nor an audit row (`Running`). `contract_discipline` shows that these
fit together: what one call guarantees keeps the world sound and is what the
others rely on.
-/

namespace NotificationBroker

open Interleave Python
open ReadCommitted (Table Grows Verdict)
open NotificationFanoutService (storeCounts note)
open DeliveryWorker (recordOutcome putDown advance)

/-! ### The effects table by table -/

theorem storeCounts_sameRequest (loaded : Notification) (recipientCount deliveryCount : ℕ)
    (n : Notification) : n.SameRequest (storeCounts loaded recipientCount deliveryCount n) := by
  unfold storeCounts Notification.SameRequest
  split <;> rfl

theorem Notification.SameRequest.conflicts {n n' : Notification} (h : n.SameRequest n')
    (m : Notification) : n'.conflicts m = n.conflicts m := by
  have h_request : n'.conflicts m = n'.request.conflicts m := rfl
  rw [h_request, show n'.request = n.request from h]
  rfl

/-- What an action of a call does to the world. -/
inductive Acts (d : Deployment) (p : Pid) (w w' : World) : Prop
  | effect (h : Effect d p w w')
  | finish (h : Finish d p w w')

section Tables

variable {d : Deployment} {p : Pid} {w w' : World}

theorem Effect.notifications (h : Effect d p w w') :
    Table.Change Notification.SameRequest
      (fun row => d.Requests p w row ∧ (row.id, p) ∈ w'.issued) p w.notifications
      w'.notifications := by
  cases h with
  | rollback => exact .abort
  | insertNotification row h_row _ _ => exact .insert row ⟨h_row, by simp [World.issue]⟩
  | commitFanout x service userIds channels recipientCount deliveryCount =>
    exact .modify _ fun n _ => storeCounts_sameRequest x.notification recipientCount deliveryCount n
  | _ => exact .keep

theorem Effect.recipients (h : Effect d p w w') :
    Table.Change Eq (w.Receives p) p w.recipients w'.recipients := by
  cases h with
  | rollback => exact .abort
  | insertRecipient x userIds row h_own h_users _ h_notification h_user =>
    exact .insert row ⟨x, userIds, h_own, h_users, h_notification, h_user⟩
  | commitFanout => exact .commit
  | _ => exact .keep

theorem Effect.deliveries (hS : Sound w) (h : Effect d p w w') :
    Table.Change Delivery.Step (w.Delivers p) p w.deliveries w'.deliveries := by
  cases h with
  | rollback => exact .abort
  | insertDelivery x userIds channels recipient channel nextAttemptAt row h_own h_users h_channels
      _ _ h_notification h_user h_channel h_row =>
    -- a new row is for the resolved audience of its transaction
    refine .insert row ⟨⟨_, _, _, _, _, h_row⟩, x, userIds, channels, channel, h_own, h_users,
      h_channels, ?_⟩
    rw [h_row]
    exact ⟨h_notification, h_user, h_channel, rfl⟩
  | commitFanout => exact .commit
  | claimDeliveries now lease workerId channels tokens claims _ _ h_due =>
    -- each claim is of a row that was due
    exact .modify _ fun r hr => Delivery.applyClaims_step channels fun c hc h_eq =>
      hS.due_of_claim h_due hc hr h_eq
  | finalizeDelivery x outcome now retryDelay delivery attemptId =>
    refine .modify _ fun r _ => ?_
    split
    next h_held => exact .finalize r x.claim outcome now retryDelay h_held
    next => exact .keep r
  | markRead deliveryId readAt h_visible =>
    refine .modify _ fun r hr => ?_
    split
    next h_eq => exact .markRead r readAt (h_visible r hr h_eq).1 (h_visible r hr h_eq).2
    next => exact .keep r
  | _ => exact .keep

theorem Effect.outbox (h : Effect d p w w') :
    Grows OutboxEvent.SameMessage w.outbox w'.outbox := by
  cases h with
  | claimEvents now lease workerId tokens claims =>
    exact .map fun e _ => OutboxEvent.applyClaims_sameMessage claims now lease workerId e
  | finalizeEvent publisher claim now errorMessage e =>
    refine .map fun r _ => ?_
    split
    · exact OutboxEvent.finalized_sameMessage publisher now errorMessage r
    · exact .refl r
  | _ => exact .refl OutboxEvent.SameMessage.refl _

theorem Finish.notifications (h : Finish d p w w') :
    Table.Change Notification.SameRequest
      (fun row => d.Requests p w row ∧ (row.id, p) ∈ w'.issued) p w.notifications
      w'.notifications := by
  cases h with
  | commitNotification => exact .commit
  | commitRetry => exact .keep

theorem Finish.recipients (h : Finish d p w w') : w'.recipients = w.recipients := by
  cases h <;> rfl

theorem Finish.deliveries (h : Finish d p w w') :
    Table.Change Delivery.Step (w.Delivers p) p w.deliveries w'.deliveries := by
  cases h with
  | commitNotification => exact .keep
  | commitRetry requester notificationId eligible skipped requestedAt replayId =>
    refine .modify _ fun r _ => ?_
    split
    next h_replay =>
      exact .replay r replayId requestedAt (Delivery.replayable_iff.mp h_replay).2.2
    next => exact .keep r

theorem Finish.outbox (h : Finish d p w w') :
    Grows OutboxEvent.SameMessage w.outbox w'.outbox := by
  cases h with
  | commitNotification => exact .append OutboxEvent.SameMessage.refl _ _
  | commitRetry => exact .append OutboxEvent.SameMessage.refl _ _

namespace Acts

theorem notifications (h : Acts d p w w') :
    Table.Change Notification.SameRequest
      (fun row => d.Requests p w row ∧ (row.id, p) ∈ w'.issued) p w.notifications
      w'.notifications := by
  cases h with
  | effect h => exact h.notifications
  | finish h => exact h.notifications

theorem recipients (h : Acts d p w w') :
    Table.Change Eq (w.Receives p) p w.recipients w'.recipients := by
  cases h with
  | effect h => exact h.recipients
  | finish h => rw [h.recipients]; exact .keep

theorem deliveries (hS : Sound w) (h : Acts d p w w') :
    Table.Change Delivery.Step (w.Delivers p) p w.deliveries w'.deliveries := by
  cases h with
  | effect h => exact h.deliveries hS
  | finish h => exact h.deliveries

theorem outbox (h : Acts d p w w') : Grows OutboxEvent.SameMessage w.outbox w'.outbox := by
  cases h with
  | effect h => exact h.outbox
  | finish h => exact h.outbox

end Acts

/-! ### Soundness is kept -/

theorem Effect.sound (hS : Sound w) (h : Effect d p w w') : Sound w' := by
  cases h with
  | nothing => exact hS
  | rollback => exact hS.rollback p
  | insertNotification row _ h_fresh h_free => exact hS.insertNotification h_fresh h_free
  | claimEvents now lease workerId tokens claims h_tokens =>
    exact (hS.issue h_tokens).mapOutbox fun e =>
      (OutboxEvent.applyClaims_sameMessage claims now lease workerId e).id
  | finalizeEvent publisher claim now errorMessage e =>
    -- recording an outcome keeps the identifiers
    refine (Sound.mapOutbox hS fun r => ?_).congr rfl rfl rfl rfl rfl rfl
    split
    · exact (OutboxEvent.finalized_sameMessage publisher now errorMessage r).id
    · rfl
  | insertRecipient x userIds row _ _ _ _ _ h_fresh h_free =>
    exact hS.insertRecipient h_fresh h_free
  | insertDelivery x userIds channels recipient channel nextAttemptAt row _ _ _ _ h_recipient _ _
      _ h_row h_fresh h_free =>
    refine hS.insertDelivery h_fresh ⟨recipient, h_recipient, ?_⟩ h_free
    rw [h_row]
    exact ⟨rfl, rfl, rfl⟩
  | commitFanout x service userIds channels recipientCount deliveryCount =>
    refine ((hS.commitFanout (p := p)).modifyNotifications (f := storeCounts x.notification
      recipientCount deliveryCount) fun n => ?_).congr rfl rfl rfl rfl rfl rfl
    have h_same := storeCounts_sameRequest x.notification recipientCount deliveryCount n
    exact ⟨h_same.id, h_same.conflicts⟩
  | claimDeliveries now lease workerId channels tokens claims h_tokens =>
    exact ((hS.issue h_tokens).modifyDeliveries
      (Delivery.applyClaims_key claims now lease workerId)).congr rfl rfl rfl rfl rfl rfl
  | finalizeDelivery x outcome now retryDelay delivery attemptId _ _ _ _ _ _ _ h_fresh =>
    refine ((hS.issue_one h_fresh).modifyDeliveries (f := fun r =>
      if r.heldBy x.claim then recordOutcome outcome now retryDelay r else r) fun r => ?_).congr
        rfl rfl rfl rfl rfl rfl
    split <;> rfl
  | markRead deliveryId readAt _ =>
    refine (hS.modifyDeliveries (f := fun r => if r.id = deliveryId then r.markRead readAt else r)
      fun r => ?_).congr rfl rfl rfl rfl rfl rfl
    split <;> rfl
  | _ => exact hS.congr rfl rfl rfl rfl rfl rfl

theorem Finish.sound (hS : Sound w) (h : Finish d p w w') : Sound w' := by
  cases h with
  | commitNotification row now eventId _ _ _ h_fresh =>
    exact (hS.commitNotifications (p := p)).appendOutbox (allFresh_singleton h_fresh)
      List.mem_cons_self
  | commitRetry requester notificationId eligible skipped requestedAt replayId eventId invocationId
      h_fresh _ =>
    have h_deliveries := hS.modifyDeliveries (f := fun r =>
      if r.replayable eligible skipped then r.requestReplay replayId requestedAt else r)
      fun r => by split <;> rfl
    refine h_deliveries.appendRetry h_fresh ?_ (by simp [RetryService.invocation])
    split
    · exact .inl rfl
    · exact .inr ⟨_, rfl, by simp [RetryService.replayRequestedEvent]⟩

theorem Acts.sound (hS : Sound w) (h : Acts d p w w') : Sound w' := by
  cases h with
  | effect h => exact h.sound hS
  | finish h => exact h.sound hS

end Tables

theorem World.HasRead.mono {p : Pid} {now : Instant} {w w' : World} (h : w.HasRead p now)
    (h_history : w.history <+: w'.history) : w'.HasRead p now := by
  obtain ⟨value, h_mem, h_now⟩ := h
  exact ⟨value, (h_history.sublist.filterMap _).subset h_mem, h_now⟩

theorem World.HasRead.record {p : Pid} {now : Instant} {w : World} (h : w.HasRead p now)
    (event : Event) : (w.record event).HasRead p now := h.mono (List.prefix_append _ _)

/-! ### What a call relies on -/

/-- What the others may do to the world while `p` is between two actions: the
rows `p` has seen are still there, and what is `p`'s own is untouched. -/
structure Relies (p : Pid) (w w' : World) : Prop where
  issued : w.issued <+: w'.issued
  issued_own : ∀ id, (id, p) ∈ w'.issued → (id, p) ∈ w.issued
  history : w.history <+: w'.history
  readings : w'.readings p = w.readings p
  notifications : Grows Notification.SameRequest w.notifications.committed
    w'.notifications.committed
  notifications_own : w'.notifications.own p = w.notifications.own p
  notifications_new : ∀ n ∈ w'.notifications.committed, (n.id, p) ∈ w'.issued →
    ∃ m ∈ w.notifications.committed, m.id = n.id
  recipients : Grows Eq w.recipients.committed w'.recipients.committed
  recipients_own : w'.recipients.own p = w.recipients.own p
  deliveries : Grows Delivery.Follows w.deliveries.committed w'.deliveries.committed
  deliveries_own : w'.deliveries.own p = w.deliveries.own p
  outbox : Grows OutboxEvent.SameMessage w.outbox w'.outbox
  accepted : w.accepted <+: w'.accepted
  invocations : w.invocations <+: w'.invocations
  invocations_new : ∀ a ∈ w'.invocations, (a.id, p) ∈ w'.issued → a ∈ w.invocations
  working : w'.workingOf p = w.workingOf p
  fanouts : w'.fanoutsOf p = w.fanoutsOf p

/-- `p` has not committed a notification, and has not recorded a retry. -/
structure Running (p : Pid) (w : World) : Prop where
  notifications : ∀ n ∈ w.notifications.committed, (n.id, p) ∉ w.issued
  invocations : ∀ a ∈ w.invocations, (a.id, p) ∉ w.issued

/-- The contract every call of the deployment meets. -/
def contract (d : Deployment) : Contract Pid World where
  Inv := Sound
  R := Relies
  G := Acts d
  K := Running

namespace Relies

variable {p q : Pid} {w w' w'' : World}

theorem refl (p : Pid) (w : World) : Relies p w w where
  issued := List.prefix_rfl
  issued_own _ h := h
  history := List.prefix_rfl
  readings := rfl
  notifications := .refl (S := Notification.SameRequest) (fun n => Eq.refl n.request) _
  notifications_own := rfl
  notifications_new n hn _ := ⟨n, hn, rfl⟩
  recipients := .refl (fun _ => rfl) _
  recipients_own := rfl
  deliveries := .refl Delivery.Follows.refl _
  deliveries_own := rfl
  outbox := .refl OutboxEvent.SameMessage.refl _
  accepted := List.prefix_rfl
  invocations := List.prefix_rfl
  invocations_new _ ha _ := ha
  working := rfl
  fanouts := rfl

theorem trans (h : Relies p w w') (h' : Relies p w' w'') : Relies p w w'' where
  issued := h.issued.trans h'.issued
  issued_own id h_mem := h.issued_own id (h'.issued_own id h_mem)
  history := h.history.trans h'.history
  readings := h'.readings.trans h.readings
  notifications := h.notifications.trans (fun h₁ h₂ => Eq.trans h₂ h₁) h'.notifications
  notifications_own := h'.notifications_own.trans h.notifications_own
  notifications_new n hn h_issued := by
    -- what is new at the end was new in the middle, and so at the start
    obtain ⟨m, hm, h_id⟩ := h'.notifications_new n hn h_issued
    obtain ⟨l, hl, h_id'⟩ := h.notifications_new m hm
      (h_id ▸ h'.issued_own n.id h_issued)
    exact ⟨l, hl, h_id'.trans h_id⟩
  recipients := h.recipients.trans Eq.trans h'.recipients
  recipients_own := h'.recipients_own.trans h.recipients_own
  deliveries := h.deliveries.trans Delivery.Follows.trans h'.deliveries
  deliveries_own := h'.deliveries_own.trans h.deliveries_own
  outbox := h.outbox.trans OutboxEvent.SameMessage.trans h'.outbox
  accepted := h.accepted.trans h'.accepted
  invocations := h.invocations.trans h'.invocations
  invocations_new a ha h_issued :=
    h.invocations_new a (h'.invocations_new a ha h_issued) (h'.issued_own a.id h_issued)
  working := h'.working.trans h.working
  fanouts := h'.fanouts.trans h.fanouts

/-- A running call is still running. -/
theorem running (h : Relies p w w') (hK : Running p w) : Running p w' where
  notifications n hn h_issued := by
    obtain ⟨m, hm, h_id⟩ := h.notifications_new n hn h_issued
    exact hK.notifications m hm (h_id ▸ h.issued_own n.id h_issued)
  invocations a ha h_issued :=
    hK.invocations a (h.invocations_new a ha h_issued) (h.issued_own a.id h_issued)

/-- The visible recipients stay visible. -/
theorem visible_recipients (h : Relies p w w') {r : Recipient}
    (hr : r ∈ w.recipients.visible p) : r ∈ w'.recipients.visible p := by
  rcases Table.mem_visible.mp hr with h_com | h_own
  · obtain ⟨r', hr', rfl⟩ := h.recipients.mem h_com
    exact Table.mem_visible.mpr (.inl hr')
  · exact Table.mem_visible.mpr (.inr (h.recipients_own ▸ h_own))

/-- The visible deliveries stay visible, under the same key. -/
theorem visible_deliveries (h : Relies p w w') {r : Delivery}
    (hr : r ∈ w.deliveries.visible p) : ∃ r' ∈ w'.deliveries.visible p, r'.key = r.key := by
  rcases Table.mem_visible.mp hr with h_com | h_own
  · obtain ⟨r', hr', h_follows⟩ := h.deliveries.mem h_com
    exact ⟨r', Table.mem_visible.mpr (.inl hr'), h_follows.key⟩
  · exact ⟨r, Table.mem_visible.mpr (.inr (h.deliveries_own ▸ h_own)), rfl⟩

theorem issued_mem (h : Relies p w w') {id : UUID} (h_mem : (id, q) ∈ w.issued) :
    (id, q) ∈ w'.issued := h.issued.subset h_mem

/-- What `p` has read from the clock stays read. -/
theorem hasRead (h : Relies p w w') {now : Instant} (h_reading : w.HasRead q now) :
    w'.HasRead q now := h_reading.mono h.history

end Relies

/-! ### The contracts fit together -/

section Discipline

variable {d : Deployment} {p q : Pid} {w w' : World}

theorem issue_own (h_ne : p ≠ q) {ids : List UUID} {id : UUID}
    (h : (id, p) ∈ (w.issue q ids).issued) : (id, p) ∈ w.issued := by
  simp only [World.issue, List.mem_append, List.mem_map, Prod.mk.injEq] at h
  rcases h with h | ⟨_, _, _, rfl⟩
  · exact h
  · exact absurd rfl h_ne

theorem readings_record_of_ne {event : Event} (h : ∀ value, event ≠ .clockRead p value) :
    (w.record event).readings p = w.readings p := by
  unfold World.readings World.record
  rw [List.filterMap_append]
  cases event with
  | clockRead q value =>
    have h_ne : q ≠ p := fun h_eq => h value (h_eq ▸ rfl)
    simp [h_ne]
  | _ => simp

theorem filter_pid_of_ne {α : Type} {pid : α → Pid} (h_ne : p ≠ q) (l : List α) :
    (l.filter fun x => pid x ≠ q).filter (fun x => pid x = p) = l.filter fun x => pid x = p := by
  rw [List.filter_filter]
  refine List.filter_congr fun x _ => ?_
  by_cases h : pid x = p <;> simp [h, h_ne]

theorem filter_map_of_ne {α : Type} (pid : α → Pid) (h_ne : p ≠ q) {f : α → α}
    (hf : ∀ x, pid (f x) = pid x) (l : List α) :
    (l.map fun x => if pid x = q then f x else x).filter (fun x => pid x = p) =
      l.filter fun x => pid x = p := by
  induction l with
  | nil => rfl
  | cons x l ih =>
    by_cases hq : pid x = q
    · simp [hq, hf, ih, Ne.symm h_ne]
    · by_cases hp : pid x = p <;> simp [hq, hp, h_ne, ih]

theorem advance_workingOf_of_ne (h_ne : p ≠ q) (stage : Stage) (w : World) :
    (advance q stage w).workingOf p = w.workingOf p :=
  filter_map_of_ne Working.pid (f := fun x => { x with stage := stage }) h_ne
    (fun _ => rfl) w.working

theorem note_fanoutsOf_of_ne (h_ne : p ≠ q) {f : Fanout → Fanout} (hf : ∀ x, (f x).pid = x.pid)
    (w : World) : (note q f w).fanoutsOf p = w.fanoutsOf p :=
  filter_map_of_ne Fanout.pid h_ne hf w.fanouts

/-! Field by field, what an effect of another process leaves alone. -/

theorem Effect.issued (h : Effect d q w w') :
    ∃ ids, w.AllFresh ids ∧ w'.issued = (w.issue q ids).issued := by
  cases h with
  | insertNotification row _ h_fresh _ => exact ⟨[row.id], allFresh_singleton h_fresh, rfl⟩
  | insertRecipient _ _ row _ _ _ _ _ h_fresh _ =>
    exact ⟨[row.id], allFresh_singleton h_fresh, rfl⟩
  | insertDelivery _ _ _ _ _ _ row _ _ _ _ _ _ _ _ _ h_fresh _ =>
    exact ⟨[row.id], allFresh_singleton h_fresh, rfl⟩
  | claimEvents _ _ _ tokens _ h_tokens => exact ⟨tokens, h_tokens, rfl⟩
  | claimDeliveries _ _ _ _ tokens _ h_tokens => exact ⟨tokens, h_tokens, rfl⟩
  | finalizeDelivery _ _ _ _ _ attemptId _ _ _ _ _ _ _ h_fresh =>
    exact ⟨[attemptId], allFresh_singleton h_fresh, rfl⟩
  | _ =>
    exact ⟨[], ⟨List.nodup_nil, fun _ h => absurd h List.not_mem_nil⟩, (List.append_nil _).symm⟩

theorem Finish.issued (h : Finish d q w w') : ∃ ids, w'.issued = (w.issue q ids).issued := by
  cases h with
  | commitNotification _ _ eventId => exact ⟨[eventId], rfl⟩
  | commitRetry _ _ _ _ _ replayId eventId invocationId =>
    exact ⟨[replayId, eventId, invocationId], rfl⟩

theorem Effect.history (h : Effect d q w w') :
    w'.history = w.history ∨ ∃ event, w'.history = (w.record event).history ∧
      ∀ p value, p ≠ q → event ≠ .clockRead p value := by
  cases h with
  | readClock value =>
    refine .inr ⟨_, rfl, fun p v h_ne h_eq => ?_⟩
    simp only [Event.clockRead.injEq] at h_eq
    exact h_ne h_eq.1.symm
  | finalizeEvent | missEvent | commitFanout | claimDeliveries | loadContext | missContext
  | beginSend | finalizeDelivery | missDelivery | markRead =>
    exact .inr ⟨_, rfl, fun _ _ _ => by simp⟩
  | _ => exact .inl rfl

theorem Finish.history (h : Finish d q w w') : w'.history = w.history := by
  cases h <;> rfl

theorem Effect.accepted (h : Effect d q w w') : w.accepted <+: w'.accepted := by
  cases h with
  | publish claim accepted => exact List.prefix_append _ _
  | _ => exact List.prefix_rfl

theorem Effect.invocations (h : Effect d q w w') : w'.invocations = w.invocations := by
  cases h <;> rfl

/-- Only the two commits that end a call add to what is committed by identifier. -/
theorem Effect.notification_ids (h : Effect d q w w') :
    w'.notifications.committed.map Notification.id =
      w.notifications.committed.map Notification.id := by
  cases h with
  | commitFanout x service userIds channels recipientCount deliveryCount =>
    simp only [Table.committed_modify, List.map_map]
    exact List.map_congr_left fun n _ =>
      (storeCounts_sameRequest x.notification recipientCount deliveryCount n).id
  | _ => rfl

theorem Effect.working_of_ne (h_ne : p ≠ q) (h : Effect d q w w') :
    w'.workingOf p = w.workingOf p := by
  cases h with
  | loadContext =>
    simp only [World.workingOf, List.filter_append]
    simp [Ne.symm h_ne]
  | beginSend | endSend => exact advance_workingOf_of_ne h_ne _ w
  | finalizeDelivery | missDelivery | dropDelivery => exact filter_pid_of_ne h_ne w.working
  | _ => rfl

theorem Effect.fanouts_of_ne (h_ne : p ≠ q) (h : Effect d q w w') :
    w'.fanoutsOf p = w.fanoutsOf p := by
  cases h with
  | openFanout =>
    simp only [World.fanoutsOf, List.filter_append]
    simp [Ne.symm h_ne]
  | resolveAudience | countRecipients | countDeliveries =>
    refine note_fanoutsOf_of_ne h_ne ?_ w
    exact fun _ => rfl
  | commitFanout | rollback => exact filter_pid_of_ne h_ne w.fanouts
  | _ => rfl

/-- Every action generates identifiers, perhaps none, and nothing else touches
the record of them. -/
theorem Acts.issued (h : Acts d q w w') : ∃ ids, w'.issued = (w.issue q ids).issued := by
  cases h with
  | effect h => exact h.issued.imp fun _ h => h.2
  | finish h => exact h.issued

/-- What has happened has happened. -/
theorem Acts.history_extends (h : Acts d q w w') : w.history <+: w'.history := by
  cases h with
  | finish h => exact h.history ▸ List.prefix_rfl
  | effect h =>
    rcases h.history with h_eq | ⟨event, h_eq, -⟩
    · exact h_eq ▸ List.prefix_rfl
    · exact h_eq ▸ List.prefix_append _ _

/-- An identifier that is fresh after an action was fresh before. -/
theorem Acts.fresh (h : Acts d q w w') {id : UUID} (h_fresh : w'.Fresh id) : w.Fresh id := by
  obtain ⟨ids, h_issued⟩ := h.issued
  intro h_mem
  refine h_fresh ?_
  rw [h_issued, World.issue, List.map_append]
  exact List.mem_append_left _ h_mem

/-- What one call guarantees is what the others rely on. -/
theorem Acts.relies (h_ne : p ≠ q) (hS : Sound w) (h : Acts d q w w') : Relies p w w' := by
  obtain ⟨ids, h_issued⟩ := h.issued
  -- one event at most is recorded, and it is of the acting party
  have h_history : w'.history = w.history ∨ ∃ event, w'.history = (w.record event).history ∧
      ∀ p value, p ≠ q → event ≠ .clockRead p value := by
    cases h with
    | effect h => exact h.history
    | finish h => exact .inl h.history
  refine {
    issued := by rw [h_issued]; exact List.prefix_append _ _
    issued_own := fun id h_mem => issue_own h_ne (h_issued ▸ h_mem)
    history := ?_
    readings := ?_
    notifications := h.notifications.grows fun _ => rfl
    notifications_own := h.notifications.own_of_ne h_ne
    notifications_new := ?_
    recipients := h.recipients.grows fun _ => rfl
    recipients_own := h.recipients.own_of_ne h_ne
    deliveries := ((h.deliveries hS).grows Delivery.Step.keep).imp Delivery.Step.follows
    deliveries_own := (h.deliveries hS).own_of_ne h_ne
    outbox := h.outbox
    accepted := ?_
    invocations := ?_
    invocations_new := ?_
    working := ?_
    fanouts := ?_ }
  · rcases h_history with h_eq | ⟨event, h_eq, -⟩
    · exact h_eq ▸ List.prefix_rfl
    · exact h_eq ▸ List.prefix_append _ _
  · rcases h_history with h_eq | ⟨event, h_eq, h_other⟩ <;> unfold World.readings <;> rw [h_eq]
    exact readings_record_of_ne fun value => h_other p value h_ne
  · intro n hn h_mem
    -- a notification that `p` has issued is inserted by no other party
    have h_own := issue_own h_ne (h_issued ▸ h_mem)
    cases h with
    | effect h =>
      have h_id := List.mem_map_of_mem (f := Notification.id) hn
      rw [h.notification_ids] at h_id
      obtain ⟨m, hm, h_eq⟩ := List.mem_map.mp h_id
      exact ⟨m, hm, h_eq⟩
    | finish h =>
      cases h with
      | commitNotification row now eventId h_row h_row_issued =>
        rw [Table.committed_commit, h_row] at hn
        rcases List.mem_append.mp hn with hn | hn
        · exact ⟨n, hn, rfl⟩
        · rw [List.mem_singleton.mp hn] at h_own
          exact absurd (hS.owner_unique h_own h_row_issued) h_ne
      | commitRetry => exact ⟨n, hn, rfl⟩
  · cases h with
    | effect h => exact h.accepted
    | finish h => cases h <;> exact List.prefix_rfl
  · cases h with
    | effect h => exact h.invocations ▸ List.prefix_rfl
    | finish h =>
      cases h with
      | commitNotification => exact List.prefix_rfl
      | commitRetry => exact List.prefix_append _ _
  · intro a ha h_mem
    -- and no other party writes an invocation under an identifier of `p`
    have h_own := issue_own h_ne (h_issued ▸ h_mem)
    cases h with
    | effect h => rwa [h.invocations] at ha
    | finish h =>
      cases h with
      | commitNotification => exact ha
      | commitRetry requester notificationId eligible skipped requestedAt replayId eventId
          invocationId h_fresh _ =>
        rcases List.mem_append.mp ha with ha | ha
        · exact ha
        · rw [List.mem_singleton.mp ha] at h_own
          exact absurd (List.mem_map_of_mem (f := Prod.fst) h_own)
            (h_fresh.2 invocationId (by simp))
  · cases h with
    | effect h => exact h.working_of_ne h_ne
    | finish h => cases h <;> rfl
  · cases h with
    | effect h => exact h.fanouts_of_ne h_ne
    | finish h => cases h <;> rfl

theorem rollback_relies (h_ne : p ≠ q) (w : World) : Relies p w (w.rollback q) :=
  { Relies.refl p w with
    notifications_own := Table.own_abort_of_ne h_ne
    recipients_own := Table.own_abort_of_ne h_ne
    deliveries_own := Table.own_abort_of_ne h_ne
    fanouts := filter_pid_of_ne h_ne w.fanouts }

theorem crash_relies (h_ne : p ≠ q) (w : World) : Relies p w (World.crash q w) :=
  { rollback_relies h_ne w with
    working := filter_pid_of_ne h_ne w.working }

/-- A move of the environment touches the clock and the directory only. -/
theorem env_apply {e : EnvMove} (h : e.apply w = some w') :
    ∃ clock directory, w' = { w with clock := clock, directory := directory } := by
  cases e with
  | tick clock =>
    simp only [EnvMove.apply, Option.ite_none_right_eq_some] at h
    exact ⟨clock, w.directory, (Option.some.inj h.2).symm⟩
  | setDirectory directory =>
    simp only [EnvMove.apply, Option.ite_none_right_eq_some] at h
    exact ⟨w.clock, directory, (Option.some.inj h.2).symm⟩

/-- **The contracts of the calls fit together.** -/
theorem contract_discipline (d : Deployment) : (contract d).Discipline surroundings where
  rely_refl := Relies.refl
  rely_trans := Relies.trans
  step_inv := Acts.sound
  step_rely h_ne hS h := h.relies h_ne hS
  env_inv hS h := by
    obtain ⟨clock, directory, rfl⟩ := env_apply h
    exact hS.congr rfl rfl rfl rfl rfl rfl
  env_rely {e p w w'} _ h := by
    obtain ⟨clock, directory, rfl⟩ := env_apply h
    exact { Relies.refl p w with }
  abort_inv hS := hS.crash _
  abort_rely h_ne _ := crash_relies h_ne _
  running_stable hK h := h.running hK
  running_abort hK := ⟨hK.notifications, hK.invocations⟩

end Discipline

end NotificationBroker
