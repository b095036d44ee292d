import NotificationBroker.Framework.RelyGuarantee
import NotificationBroker.Services.ProducerQuota

/-!
# How many requests a producer quota admits

In every run of interleaved calls of `consume`, of the `n` calls of a source service that
have committed in a window exactly `min n limit` return normally (`consume_counts`). The
others raise `ProducerQuotaExceeded`, unless the end of the window, which is in the exception,
lies after the year 9999: then `datetime` raises `OverflowError` instead.

The count a call gets is a ticket of the counter of its window, and the decision depends on
that ticket only (`QuotaPost`). The tickets of a counter are numbered without gaps
(`Counters.Serial`), whatever other services and windows do.
-/

namespace NotificationBroker

open Interleave Python
open ReadCommitted (Counters Ticket)

/-! ### Steps -/

/-- What an action of `p` can do to the table. -/
inductive QuotaStep (p : Pid) (w : QuotaStore) : QuotaStore → Prop
  | nothing : QuotaStep p w w
  | read (now : Instant) : QuotaStep p w { w with readings := w.readings ++ [(p, now)] }
  | increment (key : QuotaKey) (h_free : ¬ w.producerQuotas.Locked p key) :
      QuotaStep p w { w with producerQuotas := w.producerQuotas.increment p key }
  | commit : QuotaStep p w { w with producerQuotas := w.producerQuotas.commit p }
  | rollback : QuotaStep p w (w.rollback p)

/-- The clock readings of `p`. -/
def QuotaStore.readingsOf (w : QuotaStore) (p : Pid) : List Instant :=
  (w.readings.filter (·.1 = p)).map Prod.snd

/-- What `p` can rely on: its tickets and its readings are its own. -/
structure QuotaRelies (p : Pid) (w w' : QuotaStore) : Prop where
  own : w'.producerQuotas.own p = w.producerQuotas.own p
  handed : w'.producerQuotas.handedTo p = w.producerQuotas.handedTo p
  readings : w'.readingsOf p = w.readingsOf p

section Steps

variable {p q : Pid} {w w' : QuotaStore}

theorem QuotaStep.serial (h : QuotaStep p w w') (h_serial : w.producerQuotas.Serial) :
    w'.producerQuotas.Serial := by
  cases h with
  | nothing | read _ => exact h_serial
  | increment key h_free => exact h_serial.increment h_free
  | commit => exact h_serial.commit p
  | rollback => exact h_serial.abort p

theorem QuotaStep.relies (h : QuotaStep q w w') (h_ne : p ≠ q) : QuotaRelies p w w' := by
  cases h with
  | nothing => exact ⟨rfl, rfl, rfl⟩
  | read now =>
    refine ⟨rfl, rfl, ?_⟩
    simp [QuotaStore.readingsOf, Ne.symm h_ne]
  | increment key h_free => exact ⟨Counters.own_increment_of_ne h_ne, rfl, rfl⟩
  | commit =>
    exact ⟨Counters.own_commit_of_ne h_ne, Counters.handedTo_commit_of_ne h_ne, rfl⟩
  | rollback => exact ⟨Counters.own_abort_of_ne h_ne, rfl, rfl⟩

/-- A call has no committed ticket as long as it runs: the commit is its last action. -/
def quotaContract : Contract Pid QuotaStore where
  Inv w := w.producerQuotas.Serial
  R := QuotaRelies
  G := QuotaStep
  K p w := w.producerQuotas.handedTo p = []

theorem quota_discipline : quotaContract.Discipline quotaMachine where
  rely_refl _ _ := ⟨rfl, rfl, rfl⟩
  rely_trans h h' := ⟨h'.own.trans h.own, h'.handed.trans h.handed, h'.readings.trans h.readings⟩
  step_inv h_serial h := h.serial h_serial
  step_rely h_ne _ h := h.relies h_ne
  env_inv {e} := e.elim
  env_rely {e} := e.elim
  abort_inv h_serial := h_serial.abort _
  abort_rely h_ne _ := QuotaStep.rollback.relies h_ne
  running_stable hK hR := hR.handed.trans hK
  running_abort hK := hK

end Steps

/-! ### One call -/

/-- What the table holds of `p`. -/
structure QuotaHolds (p : Pid) (readings : List Instant) (own handed : List (Ticket Pid QuotaKey))
    (w : QuotaStore) : Prop where
  readings : w.readingsOf p = readings
  own : w.producerQuotas.own p = own
  handed : w.producerQuotas.handedTo p = handed

/-- How a call ends: without a committed ticket, or as the ticket's count decides. -/
def QuotaPost (service : ProducerQuotaService) (sourceService : String) (p : Pid)
    (outcome : Except PyError Unit) (w : QuotaStore) : Prop :=
  (outcome ≠ .ok () ∧ w.producerQuotas.handedTo p = []) ∨
  ∃ now windowStart count, w.readingsOf p = [now] ∧ service.windowStart now = .ok windowStart ∧
    w.producerQuotas.handedTo p = [⟨p, ⟨sourceService, windowStart⟩, count⟩] ∧
    outcome = service.verdict windowStart now count

section Call

variable {p : Pid} {w w' : QuotaStore} {readings : List Instant}
  {own handed : List (Ticket Pid QuotaKey)}

theorem QuotaHolds.stable (h : QuotaHolds p readings own handed w) (hR : QuotaRelies p w w') :
    QuotaHolds p readings own handed w' :=
  ⟨hR.readings.trans h.readings, hR.own.trans h.own, hR.handed.trans h.handed⟩

theorem QuotaHolds.read (h : QuotaHolds p [] own handed w) (now : Instant) :
    QuotaHolds p [now] own handed { w with readings := w.readings ++ [(p, now)] } := by
  refine ⟨?_, h.own, h.handed⟩
  have h_none : w.readings.filter (·.1 = p) = [] := List.map_eq_nil_iff.mp h.readings
  simp [QuotaStore.readingsOf, h_none]

/-- The transaction takes a ticket and commits it, or has no effect. -/
theorem increment_safe (sourceService : String) (windowStart : Instant)
    (h : QuotaHolds p readings [] [] w) :
    quotaContract.Safe p (fun r w' => match r with
      | .ok count => QuotaHolds p readings [] [⟨p, ⟨sourceService, windowStart⟩, count⟩] w'
      | .error _ => QuotaHolds p readings [] [] w')
      (QuotaProgram.unitOfWork do
        let requestCount ← ProducerQuotaRepository.increment sourceService windowStart
        ProducerQuotaRepository.commit
        return requestCount) w := by
  intro w₁ hR₁ _
  have h₁ := h.stable hR₁
  refine ⟨h₁.handed, fun i r w₂ h_upsert => ?_⟩
  dsimp only at h_upsert
  split at h_upsert
  · exact absurd h_upsert (by simp)
  next h_free =>
    split at h_upsert
    · obtain ⟨rfl, rfl⟩ := Prod.mk.inj (Option.some.inj h_upsert)
      refine ⟨.increment _ h_free, fun w₃ hR₃ _ => ?_⟩
      -- the ticket is still open when the transaction commits
      have h_own := hR₃.own
      have h_handed : w₃.producerQuotas.handedTo p = [] := hR₃.handed.trans h₁.handed
      rw [Counters.own_increment_self, h₁.own] at h_own
      refine ⟨h_handed, fun i r w₄ h_commit => ?_⟩
      obtain ⟨rfl, rfl⟩ := Prod.mk.inj (Option.some.inj h_commit)
      refine ⟨.commit, fun w₅ hR₅ _ => QuotaHolds.stable ⟨?_, ?_, ?_⟩ hR₅⟩
      · exact hR₃.readings.trans h₁.readings
      · exact Counters.own_commit_self
      · rw [Counters.handedTo_commit_self, h_handed, h_own]
        rfl
    · -- the count does not fit its column, and the transaction rolls back
      obtain ⟨rfl, rfl⟩ := Prod.mk.inj (Option.some.inj h_upsert)
      refine ⟨.nothing, fun w₃ hR₃ _ => ?_⟩
      have h₃ := h₁.stable hR₃
      refine ⟨h₃.handed, fun i r w₄ h_rollback => ?_⟩
      obtain ⟨rfl, rfl⟩ := Prod.mk.inj (Option.some.inj h_rollback)
      refine ⟨.rollback, fun w₅ hR₅ _ => QuotaHolds.stable ⟨?_, ?_, ?_⟩ hR₅⟩
      · exact h₃.readings
      · exact Counters.own_abort_self
      · exact h₃.handed

/-- What is left of a call that knows its window. -/
theorem decide_safe {service : ProducerQuotaService} {sourceService : String}
    {now windowStart : Instant} (h_start : service.windowStart now = .ok windowStart)
    (h : QuotaHolds p [now] [] [] w) (hS : w.producerQuotas.Serial) :
    quotaContract.Safe p (QuotaPost service sourceService p)
      (do
        let requestCount ← QuotaProgram.unitOfWork do
          let requestCount ← ProducerQuotaRepository.increment sourceService windowStart
          ProducerQuotaRepository.commit
          return requestCount
        QuotaProgram.compute (service.verdict windowStart now requestCount) :
          QuotaProgram Unit) w := by
  refine Contract.Safe.bind quota_discipline hS ?_
  refine (increment_safe sourceService windowStart h).mono fun r w₁ _ h₁ => ?_
  cases r with
  | error e => exact fun w₂ hR₂ _ => .inl ⟨by simp, (h₁.stable hR₂).handed⟩
  | ok count =>
    intro w₂ hR₂ _
    have h₂ := h₁.stable hR₂
    exact .inr ⟨now, windowStart, count, h₂.readings, h_start, h₂.handed, rfl⟩

/-- **Every call conforms**: it takes one ticket, commits it and decides by its count. -/
theorem consume_safe (service : ProducerQuotaService) (sourceService : String)
    (h : QuotaHolds p [] [] [] w) :
    quotaContract.Safe p (QuotaPost service sourceService p) (service.consume sourceService) w := by
  refine Contract.Safe.attempt fun w₁ hR₁ hS₁ => ⟨(h.stable hR₁).handed, fun i r w₂ h_read => ?_⟩
  cases i with
  | time value =>
    obtain ⟨h_result, rfl⟩ := Prod.mk.inj (Option.some.inj h_read)
    refine ⟨.read value.instant, ?_⟩
    have h₂ := (h.stable hR₁).read value.instant
    -- an exception is raised before a ticket is handed out
    have h_raise : ∀ e, quotaContract.Safe p (QuotaPost service sourceService p)
        (.ret (.error e) : Prog Pid Choice QuotaStore (Except PyError Unit)) _ := fun e w₃ hR₃ _ =>
      .inl ⟨by simp, (h₂.stable hR₃).handed⟩
    cases r with
    | error e => exact h_raise e
    | ok now =>
      -- the reading is the one the clock gave
      have h_now : now = value.instant := by
        split at h_result
        · exact absurd h_result (by simp)
        · split at h_result
          · exact (Except.ok.inj h_result).symm
          · exact absurd h_result (by simp)
      subst h_now
      cases h_start : service.windowStart value.instant with
      | error e =>
        dsimp only
        rw [h_start]
        exact h_raise e
      | ok windowStart =>
        dsimp only
        rw [h_start]
        exact decide_safe h_start h₂ hS₁
  | _ => exact absurd h_read (by simp)

end Call

/-! ### Runs -/

theorem quota_verified (service : ProducerQuotaService) (callers : Pid → String) :
    (service.start callers).Verified quotaContract fun p => QuotaPost service (callers p) p where
  inv := Counters.serial_empty
  safe p m hm := by
    obtain rfl := Option.some.inj hm
    exact consume_safe service (callers p) ⟨rfl, rfl, rfl⟩
  crashed p hp := absurd hp (by simp [ProducerQuotaService.start])

/-- How the call of `p` has ended, if it has. -/
def QuotaState.outcome (c : QuotaState) (p : Pid) : Option (Except PyError Unit) :=
  match c.prog p with
  | some (.ret outcome) => some outcome
  | _ => none

/-- The calls of a source service that have committed their increment in a window, in the
order of their commits. -/
def QuotaStore.committedCalls (w : QuotaStore) (sourceService : String) (windowStart : Instant) :
    List Pid :=
  (w.producerQuotas.handedOf ⟨sourceService, windowStart⟩).map Ticket.pid

section Runs

variable {service : ProducerQuotaService} {callers : Pid → String}
  {ls : List (Label Pid Choice Empty)} {c : QuotaState}

theorem QuotaState.outcome_eq {p : Pid} {r : Except PyError Unit} :
    c.outcome p = some r ↔ c.prog p = some (.ret r) := by
  unfold QuotaState.outcome
  split
  next r' h => simp [h]
  next h_ne => exact ⟨fun h => absurd h (by simp), fun h => absurd h (h_ne r)⟩

/-- A call with a committed ticket has ended as the ticket's count decides. -/
theorem ticket_outcome (h_run : service.Run callers ls c) {x : Ticket Pid QuotaKey}
    (hx : x ∈ c.world.producerQuotas.handed) :
    x.key.sourceService = callers x.pid ∧ c.world.producerQuotas.handedTo x.pid = [x] ∧
    ∃ now, c.world.readingsOf x.pid = [now] ∧ service.windowStart now = .ok x.key.windowStart ∧
      c.outcome x.pid = some (service.verdict x.key.windowStart now x.count) := by
  have h_verified := (quota_verified service callers).run quota_discipline h_run
  have h_mem : x ∈ c.world.producerQuotas.handedTo x.pid := Counters.mem_handedTo.mpr ⟨hx, rfl⟩
  -- a running call has no ticket: it takes one with its last step
  have h_ended : ∃ r, c.prog x.pid = some (.ret r) := by
    by_contra h_not
    have hK : c.world.producerQuotas.handedTo x.pid = [] :=
      h_verified.running quota_discipline fun r h_ret => h_not ⟨r, h_ret⟩
    exact absurd (hK ▸ h_mem) List.not_mem_nil
  obtain ⟨r, h_ret⟩ := h_ended
  obtain ⟨p, key, count⟩ := x
  rcases h_verified.result quota_discipline h_ret with ⟨-, h_none⟩ |
    ⟨now, windowStart, count', h_reading, h_start, h_handed, rfl⟩
  · exact absurd (h_none ▸ h_mem) List.not_mem_nil
  · have h_eq : Ticket.mk p key count = ⟨p, ⟨callers p, windowStart⟩, count'⟩ :=
      List.mem_singleton.mp (h_handed ▸ h_mem)
    obtain ⟨-, rfl, rfl⟩ := Ticket.mk.inj h_eq
    exact ⟨rfl, h_handed, now, h_reading, h_start, QuotaState.outcome_eq.mpr h_ret⟩

/-- A process has one committed ticket at most. -/
theorem ticket_unique (h_run : service.Run callers ls c) :
    (c.world.producerQuotas.handed.map Ticket.pid).Nodup := by
  refine List.nodup_iff_count_le_one.mpr fun p => ?_
  rw [List.count_eq_countP, List.countP_map, List.countP_eq_length_filter]
  by_cases h_mem : ∃ x ∈ c.world.producerQuotas.handed, x.pid = p
  · obtain ⟨x, hx, rfl⟩ := h_mem
    have h_one := (ticket_outcome h_run hx).2.1
    have h_filter : c.world.producerQuotas.handed.filter ((· == x.pid) ∘ Ticket.pid) = [x] := by
      rw [← h_one]
      exact List.filter_congr fun y _ => by by_cases h : y.pid = x.pid <;> simp [h]
    rw [h_filter, List.length_singleton]
  · have h_filter : c.world.producerQuotas.handed.filter ((· == p) ∘ Ticket.pid) = [] :=
      List.filter_eq_nil_iff.mpr fun x hx => by simpa using fun h => h_mem ⟨x, hx, h⟩
    rw [h_filter]
    exact Nat.zero_le 1

theorem verdict_ok_iff {windowStart now : Instant} {count : ℕ} :
    service.verdict windowStart now count = .ok () ↔ (count : ℤ) ≤ service.limit := by
  unfold ProducerQuotaService.verdict
  dsimp only
  split
  next h_gt =>
    refine ⟨fun h => ?_, fun h => absurd h (by omega)⟩
    split at h <;> exact absurd h (by simp)
  next h_le => exact ⟨fun _ => by omega, fun _ => rfl⟩

theorem verdict_exceeded_iff {windowStart : Instant} (now : Instant) {count : ℕ}
    (h_exceeded : service.limit < count) :
    (∃ seconds, service.verdict windowStart now count = .error (.producerQuotaExceeded seconds)) ↔
      Datetime.InRange (windowStart + service.window) := by
  unfold ProducerQuotaService.verdict
  dsimp only
  rw [if_pos h_exceeded]
  split
  next h_range => exact ⟨fun _ => h_range, fun _ => ⟨_, rfl⟩⟩
  next h_range => exact ⟨fun ⟨_, h⟩ => absurd h (by simp), fun h => absurd h h_range⟩

section Window

variable {sourceService : String} {windowStart : Instant}

/-- A call with a ticket of the window has decided by it. -/
theorem window_ticket (h_run : service.Run callers ls c) {x : Ticket Pid QuotaKey}
    (hx : x ∈ c.world.producerQuotas.handedOf ⟨sourceService, windowStart⟩) :
    callers x.pid = sourceService ∧ ∃ now, c.world.readingsOf x.pid = [now] ∧
      service.windowStart now = .ok windowStart ∧
      c.outcome x.pid = some (service.verdict windowStart now x.count) := by
  obtain ⟨h_mem, h_key⟩ := List.mem_filter.mp hx
  obtain ⟨h_source, -, now, h_reading, h_start, h_outcome⟩ := ticket_outcome h_run h_mem
  rw [of_decide_eq_true h_key] at h_source h_start h_outcome
  exact ⟨h_source.symm, now, h_reading, h_start, h_outcome⟩

theorem window_counts (h_run : service.Run callers ls c) :
    (c.world.producerQuotas.handedOf ⟨sourceService, windowStart⟩).map Ticket.count =
      List.range' 1 (c.world.committedCalls sourceService windowStart).length := by
  rw [QuotaStore.committedCalls, List.length_map]
  exact ((quota_verified service callers).run quota_discipline h_run).inv.counts_handed _

/-- As many calls return as the limit admits. -/
theorem countP_returns (h_run : service.Run callers ls c) :
    ((c.world.committedCalls sourceService windowStart).countP
      (c.outcome · = some (.ok ())) : ℤ) =
      min ((c.world.committedCalls sourceService windowStart).length : ℤ) service.limit := by
  have h_pos := service.limit_pos
  -- a call returns when its own count is within the limit
  have h_returns : ∀ x ∈ c.world.producerQuotas.handedOf ⟨sourceService, windowStart⟩,
      c.outcome x.pid = some (.ok ()) ↔ x.count ≤ service.limit.toNat := by
    intro x hx
    obtain ⟨-, now, -, -, h_outcome⟩ := window_ticket h_run hx
    rw [h_outcome, Option.some.injEq, verdict_ok_iff]
    omega
  have h_count : (c.world.committedCalls sourceService windowStart).countP
      (c.outcome · = some (.ok ())) =
        min (c.world.committedCalls sourceService windowStart).length service.limit.toNat := by
    -- the counts of a window are one, two, three and so on
    rw [← Counters.countP_le_range', ← window_counts h_run, QuotaStore.committedCalls,
      List.countP_map, List.countP_map]
    refine List.countP_congr fun x hx => ?_
    simp only [decide_eq_true_eq, Function.comp_apply, h_returns x hx]
  rw [h_count]
  omega

/-- The calls beyond the limit raise `ProducerQuotaExceeded`, if the window ends in the range
of `datetime`. -/
theorem exceeded_iff (h_run : service.Run callers ls c) :
    (∀ p ∈ c.world.committedCalls sourceService windowStart, c.outcome p ≠ some (.ok ()) →
        ∃ seconds, c.outcome p = some (.error (.producerQuotaExceeded seconds))) ↔
      (c.world.committedCalls sourceService windowStart).length ≤ service.limit ∨
        Datetime.InRange (windowStart + service.window) := by
  constructor
  · intro h
    by_contra h_not
    obtain ⟨h_more, h_range⟩ := not_or.mp h_not
    -- the last ticket is beyond the limit
    have h_last : (c.world.committedCalls sourceService windowStart).length ∈
        (c.world.producerQuotas.handedOf ⟨sourceService, windowStart⟩).map Ticket.count := by
      have h_pos := service.limit_pos
      rw [window_counts h_run, List.mem_range'_1]
      omega
    obtain ⟨x, hx, h_count⟩ := List.mem_map.mp h_last
    obtain ⟨-, now, -, -, h_outcome⟩ := window_ticket h_run hx
    have h_exceeded : service.limit < x.count := by omega
    obtain ⟨seconds, h_raised⟩ := h x.pid (List.mem_map_of_mem hx) (by
      rw [h_outcome]
      exact fun h_ok => absurd (verdict_ok_iff.mp (Option.some.inj h_ok)) (by omega))
    rw [h_outcome, Option.some.injEq] at h_raised
    exact h_range ((verdict_exceeded_iff now h_exceeded).mp ⟨seconds, h_raised⟩)
  · intro h p hp h_not_ok
    obtain ⟨x, hx, rfl⟩ := List.mem_map.mp hp
    obtain ⟨-, now, -, -, h_outcome⟩ := window_ticket h_run hx
    have h_exceeded : service.limit < x.count := by
      by_contra h_le
      exact h_not_ok (h_outcome.trans (congrArg some (verdict_ok_iff.mpr (by omega))))
    have h_range : Datetime.InRange (windowStart + service.window) := by
      refine h.resolve_left fun h_few => ?_
      have h_count := window_counts h_run ▸ List.mem_map_of_mem (f := Ticket.count) hx
      have h_bound := (List.mem_range'_1.mp h_count).2
      omega
    obtain ⟨seconds, h_raised⟩ := (verdict_exceeded_iff now h_exceeded).mpr h_range
    exact ⟨seconds, h_outcome.trans (congrArg some h_raised)⟩

end Window

/-- **The quota is exact.** In every run, `min n limit` of the `n` calls of a source service
that have committed in a window return normally. The other ones raise
`ProducerQuotaExceeded` if and only if the window ends in the range of `datetime`, or there
are no others. The calls committed in a window are those of the source service whose clock
reading is in it, and every call that returns normally has committed. -/
theorem consume_counts (h_run : service.Run callers ls c) (sourceService : String)
    (windowStart : Instant) :
    let committed := c.world.committedCalls sourceService windowStart
    (committed.Nodup ∧ ∀ p ∈ committed, callers p = sourceService ∧
      ∃ now, c.world.readingsOf p = [now] ∧ service.windowStart now = .ok windowStart) ∧
    (∀ p, c.outcome p = some (.ok ()) → ∃ start, p ∈ c.world.committedCalls (callers p) start) ∧
    (committed.countP (c.outcome · = some (.ok ())) : ℤ) =
      min (committed.length : ℤ) service.limit ∧
    ((∀ p ∈ committed, c.outcome p ≠ some (.ok ()) →
        ∃ seconds, c.outcome p = some (.error (.producerQuotaExceeded seconds))) ↔
      committed.length ≤ service.limit ∨ Datetime.InRange (windowStart + service.window)) := by
  refine ⟨⟨?_, fun p hp => ?_⟩, fun p h_outcome => ?_, countP_returns h_run, exceeded_iff h_run⟩
  · exact (ticket_unique h_run).sublist (List.filter_sublist.map _)
  · obtain ⟨x, hx, rfl⟩ := List.mem_map.mp hp
    obtain ⟨h_source, now, h_reading, h_start, -⟩ := window_ticket h_run hx
    exact ⟨h_source, now, h_reading, h_start⟩
  · -- a call that returns has taken a ticket
    have h_result := ((quota_verified service callers).run quota_discipline h_run).result
      quota_discipline (QuotaState.outcome_eq.mp h_outcome)
    rcases h_result with ⟨h_not, -⟩ | ⟨now, start, count, -, -, h_handed, -⟩
    · exact absurd rfl h_not
    · have h_mem := Counters.mem_handedTo.mp (h_handed ▸ List.mem_singleton_self _)
      exact ⟨start, List.mem_map.mpr ⟨_, List.mem_filter.mpr ⟨h_mem.1, by simp⟩, rfl⟩⟩

end Runs

/-- A schedule whose steps are all enabled is a run. -/
theorem ProducerQuotaService.exists_run (service : ProducerQuotaService) (callers : Pid → String)
    (ls : List (Label Pid Choice Empty)) (f : QuotaState → Bool)
    (h : (quotaMachine.run (service.start callers) ls).map f = some true) :
    ∃ c, service.Run callers ls c ∧ f c = true :=
  Option.map_eq_some_iff.mp h

/-- A limit of one request in each of the windows of `seconds` seconds. -/
def oneRequest (seconds : ℤ) (h : 0 < seconds) : ProducerQuotaService :=
  ⟨1, seconds * 1000000, by decide, by omega, by omega⟩

/-- Two calls read the clock, and then take their tickets one after the other. -/
def twoRequests : List (Label Pid Choice Empty) :=
  [.run 0 (.time ⟨1782000000000000, some 0⟩), .run 1 (.time ⟨1782000000500000, some 0⟩),
    .run 0 .go, .run 0 .go, .run 1 .go, .run 1 .go]

/-- In a window of a minute the second call is told to come back. -/
theorem consume_counts_two : ∃ c, (oneRequest 60 (by decide)).Run (fun _ => "billing")
    twoRequests c ∧ c.outcome 0 = some (.ok ()) ∧
    c.world.committedCalls "billing" 1782000000000000 = [0, 1] ∧
    ∃ seconds, c.outcome 1 = some (.error (.producerQuotaExceeded seconds)) := by
  obtain ⟨c, h_run, h_c⟩ := (oneRequest 60 (by decide)).exists_run (fun _ => "billing")
    twoRequests (fun c => decide (c.outcome 0 = some (.ok ()) ∧
      c.world.committedCalls "billing" 1782000000000000 = [0, 1] ∧
      c.outcome 1 ≠ some (.ok ()))) (by decide +kernel)
  obtain ⟨h_first, h_calls, h_second⟩ := of_decide_eq_true h_c
  have h_exact := (consume_counts h_run "billing" 1782000000000000).2.2.2.mpr
    (.inr (by decide))
  exact ⟨c, h_run, h_first, h_calls, h_exact 1 (by rw [h_calls]; decide) h_second⟩

/-- A window of 300,000,000,000 seconds ends after the year 9999, and the second call raises
`OverflowError`. -/
theorem consume_overflows : ∃ c, (oneRequest 300000000000 (by decide)).Run
    (fun _ => "billing") twoRequests c ∧ c.world.committedCalls "billing" 0 = [0, 1] ∧
    c.outcome 0 = some (.ok ()) ∧ c.outcome 1 = some (.error .overflowError) := by
  obtain ⟨c, h_run, h_c⟩ := (oneRequest 300000000000 (by decide)).exists_run
    (fun _ => "billing") twoRequests (fun c =>
      decide (c.world.committedCalls "billing" 0 = [0, 1] ∧ c.outcome 0 = some (.ok ()) ∧
        c.outcome 1 = some (.error .overflowError))) (by decide +kernel)
  exact ⟨c, h_run, of_decide_eq_true h_c⟩

end NotificationBroker
