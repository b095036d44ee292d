import NotificationBroker.Framework.Segments
import NotificationBroker.Framework.Sequential
import NotificationBroker.Services.PipelineMetrics

/-!
# How old metrics can be

`scrapes_fresh`: whatever other scrapes run at the same time, and whichever of them raise in the
middle of a refresh, every gauge of a response is what the database said at some moment of the
run, which is no longer than the refresh interval before the scrape began. `refreshes_spaced`: the
database is asked once in an interval, by one thread, and no thread leaves the lock behind.

Both are about `Cache.Refreshing`, a refresh at work. Each part of `refresh` is done with the gauges
it sets (`Advances`), and together these are all gauges.
-/

namespace NotificationBroker

open Interleave Python
open Cache (Advances advance_safe assign_safe contract forEach_safe look_safe lookup_safe set_safe)

namespace PipelineMetrics

/-! ### Counts -/

section Counts

variable {κ : Type} [DecidableEq κ]

/-- A key that no row has is not in the dictionary, and counts 0. -/
theorem getCount_groupCounts (keys : List κ) (key : κ) :
    getCount (groupCounts keys) key = keys.count key := by
  -- each key has one group, the first that is found
  have h_find : ∀ distinct : List κ, (distinct.map fun k => (k, keys.count k)).find?
      (fun x => x.1 = key) = if key ∈ distinct then some (key, keys.count key) else none := by
    intro distinct
    induction distinct with
    | nil => simp
    | cons k distinct ih =>
      by_cases h : k = key
      · simp [h]
      · simp [h, ih, Ne.symm h]
  rw [getCount, groupCounts, h_find]
  by_cases h : key ∈ keys
  · rw [if_pos (List.mem_dedup.mpr h)]
    rfl
  · rw [if_neg fun h_mem => h (List.mem_dedup.mp h_mem), List.count_eq_zero_of_not_mem h]
    rfl

theorem count_map {ρ : Type} (f : ρ → κ) (rows : List ρ) (key : κ) :
    (rows.map f).count key = rows.countP (f · = key) := by
  rw [List.count_eq_countP, List.countP_map]
  exact List.countP_congr fun r _ => by simp

end Counts

theorem oldestPublishableEventAge_nonneg (rows : List OutboxEvent) (now : Instant) :
    0 ≤ oldestPublishableEventAge rows now := by
  unfold oldestPublishableEventAge
  split
  · exact le_rfl
  · exact le_max_right _ _

end PipelineMetrics

open PipelineMetrics

namespace PipelineMetricsRefresher

variable {refresher : PipelineMetricsRefresher} {p : Pid} {t : ℤ} {done : Gauge → Prop}
  {w : Registry}

/-- A part of a refresh meets its contract: done with these gauges, or a query has raised. -/
def Part (refresher : PipelineMetricsRefresher) (p : Pid) (t : ℤ) (turn : Gauge → Prop)
    (program : ScrapeProgram Unit) : Prop :=
  ∀ done w, w.Fresh refresher.rules → w.Refreshing refresher.rules p t done →
    (contract refresher.rules).Safe p
      (Advances refresher.rules p t (fun gauge => turn gauge ∨ done gauge)
        fun e => e ≠ ScrapeError.typeError) program.run w

/-- What a count shows is the database alone. -/
theorem shows_count {S : Moment → Prop} {m : Moment} (hm : S m) {gauge : Gauge} {value : ℤ}
    (h : value = gauge.value m.wall m.database) : refresher.rules.Shows S gauge value :=
  ⟨m, m, hm, hm, h⟩

/-- One part after the other. -/
theorem Part.seq {turn turn' : Gauge → Prop} {program program' : ScrapeProgram Unit}
    (h : refresher.Part p t turn program) (h' : refresher.Part p t turn' program') :
    refresher.Part p t (fun gauge => turn' gauge ∨ turn gauge) (program >>= fun _ => program') := by
  intro done w h_fresh h_refreshing
  refine advance_safe h_fresh (h done w h_fresh h_refreshing) (fun _ w' h_fresh' h₁ => ?_)
    fun e w' h_lock h_e => ⟨h_lock, h_e⟩
  refine (h' _ w' h_fresh' h₁).mono fun r w'' _ hr => ?_
  cases r with
  | error e => exact hr
  | ok _ => exact Cache.Refreshing.imp hr fun gauge h_gauge => or_assoc.mp h_gauge

/-- A query sees the database of the moment at which it runs, or raises. -/
theorem select_safe {α β : Type} {Q : Except ScrapeError β → Registry → Prop} {f : World → α}
    {g : α → ScrapeProgram β}
    (h : ∀ w', w.Relies refresher.rules p w' → w'.Fresh refresher.rules →
      (contract refresher.rules).Safe p Q (g (f w'.now.database)).run w')
    (h_raise : ∀ w' message, w.Relies refresher.rules p w' → Q (.error (.database message)) w') :
    (contract refresher.rules).Safe p Q (select f >>= g).run w := by
  refine lookup_safe (fun w' hR h_fresh reply a h_some => ?_)
    fun w' e reply m hR h_some => ?_
  · cases reply with
    | rows => exact Except.ok.inj (Option.some.inj h_some) ▸ h w' hR h_fresh
    | fail message => exact absurd (Option.some.inj h_some) (by simp)
  · cases reply with
    | rows => exact absurd (Option.some.inj h_some) (by simp)
    | fail message => exact Except.error.inj (Option.some.inj h_some) ▸ h_raise w' message hR

/-- A query, and the gauges that are set by what it has found. -/
theorem select_part {α : Type} {f : World → α} {g : α → ScrapeProgram Unit} {turn : Gauge → Prop}
    (h : ∀ m done w, w.Fresh refresher.rules → w.Refreshing refresher.rules p t done →
      w.Since refresher.rules t m → (contract refresher.rules).Safe p
        (Advances refresher.rules p t (fun gauge => turn gauge ∨ done gauge)
          fun e => e ≠ ScrapeError.typeError) (g (f m.database)).run w) :
    refresher.Part p t turn (select f >>= g) := by
  intro done w _ h_refreshing
  refine select_safe (fun w' hR h_fresh' => ?_) fun w' message hR => ?_
  · have h' := h_refreshing.stable hR
    exact h w'.now done w' h_fresh' h' (h'.since h_fresh')
  · exact ⟨(hR.held h_refreshing.lock).1, by simp⟩

/-- The loop that sets the gauges of a query's counts. -/
theorem set_counts {ι κ : Type} [DecidableEq κ] {keys : List κ} {keyOf : ι → κ}
    {gaugeOf : ι → Gauge} (items : List ι) {m : Moment}
    (h_value : ∀ item, (keys.count (keyOf item) : ℤ) = (gaugeOf item).value m.wall m.database)
    (h_fresh : w.Fresh refresher.rules) (h : w.Refreshing refresher.rules p t done)
    (hm : w.Since refresher.rules t m) :
    (contract refresher.rules).Safe p
      (Advances refresher.rules p t
        (fun gauge => (∃ item ∈ items, gauge = gaugeOf item) ∨ done gauge)
        fun e => e ≠ ScrapeError.typeError)
      (Cache.forEach (fun item => setGauge (gaugeOf item) (getCount (groupCounts keys)
        (keyOf item))) items).run w := by
  refine forEach_safe (fun item gauge => gauge = gaugeOf item)
    (fun item _ done w h_fresh h hm => ?_) h_fresh h hm
  rw [getCount_groupCounts, h_value]
  exact set_safe h (shows_count hm rfl)

theorem notificationRequests_part : refresher.Part p t
    (fun gauge => ∃ status ∈ requestStatuses, gauge = .notificationRequestsByStatus status)
    refreshNotificationRequestCounts := by
  refine select_part fun m done w h_fresh h hm => set_counts requestStatuses ?_ h_fresh h hm
  intro status
  cases status
  rw [count_map]
  simp [Gauge.value]

theorem outboxEvents_part : refresher.Part p t
    (fun gauge => ∃ status ∈ outboxStatuses, gauge = .outboxEventsByStatus status)
    refreshOutboxEventCounts := by
  refine select_part fun m done w h_fresh h hm => set_counts outboxStatuses ?_ h_fresh h hm
  intro status
  rw [count_map]
  rfl

theorem deliveryCounts_part : refresher.Part p t
    (fun gauge => ∃ status ∈ deliveryStatuses, gauge = .deliveriesByStatus status)
    (do
      let counts ← deliveryCounts
      Cache.forEach (fun status =>
        setDeliveryStatusCount status (getCount counts status)) deliveryStatuses) := by
  refine select_part fun m done w h_fresh h hm => set_counts deliveryStatuses ?_ h_fresh h hm
  intro status
  rw [count_map]
  rfl

theorem deliveryChannelCounts_part : refresher.Part p t
    (fun gauge => ∃ channel ∈ channels, ∃ status ∈ deliveryStatuses,
      gauge = .deliveriesByChannelStatus channel status)
    (do
      let channelCounts ← deliveryChannelCounts
      Cache.forEach (fun channel => Cache.forEach (fun status =>
        setDeliveryChannelStatusCount channel status
          (getCount channelCounts (channel.value, status))) deliveryStatuses) channels) := by
  refine select_part fun m done w h_fresh h hm => forEach_safe
    (fun channel gauge => ∃ status ∈ deliveryStatuses,
      gauge = .deliveriesByChannelStatus channel status)
    (fun channel _ done w h_fresh h hm => set_counts deliveryStatuses ?_ h_fresh h hm) h_fresh h hm
  intro status
  rw [count_map]
  simp [Gauge.value]

theorem deliveries_part : refresher.Part p t
    (fun gauge => (∃ channel ∈ channels, ∃ status ∈ deliveryStatuses,
        gauge = .deliveriesByChannelStatus channel status) ∨
      ∃ status ∈ deliveryStatuses, gauge = .deliveriesByStatus status)
    refreshDeliveryCounts := by
  have h_counts : refresher.Part p t _ _ := deliveryCounts_part
  have h := h_counts.seq deliveryChannelCounts_part
  rwa [bind_assoc] at h

/-- The last part of a refresh. -/
def refreshOldestPending : ScrapeProgram Unit := do
  let now ← wallClock
  let age ← oldestPublishableEventAgeSeconds now
  setOutboxOldestPendingSeconds age

/-- The age of the oldest event is one by the time before the query. -/
theorem oldestPending_part :
    refresher.Part p t (· = .outboxOldestPendingSeconds) refreshOldestPending := by
  intro done w _ h_refreshing
  refine look_safe fun w₁ hR₁ h_fresh₁ => ?_
  have h₁ := h_refreshing.stable hR₁
  have h_wall := h₁.since h_fresh₁
  refine select_safe (fun w₂ hR₂ h_fresh₂ => ?_) fun w₂ message hR₂ => ?_
  · have h₂ := h₁.stable hR₂
    refine set_safe h₂ ⟨w₁.now, w₂.now, ?_, h₂.since h_fresh₂, ?_⟩
    · exact ⟨hR₂.past h_wall.1, h_wall.2⟩
    · exact max_eq_left (oldestPublishableEventAge_nonneg _ _)
  · exact ⟨(hR₂.held h₁.lock).1, by simp⟩

/-! ### One scrape -/

/-- The gauges have been refreshed after the time `t`. -/
def RefreshedAfter (t : ℤ) (w : Registry) : Prop := ∃ last ∈ w.refreshedAt, t < last

theorem RefreshedAfter.grows {w' : Registry} (h : RefreshedAfter t w)
    (h_grows : w.Grows refresher.rules w') : RefreshedAfter t w' := by
  obtain ⟨last, h_last, h_lt⟩ := h
  obtain ⟨last', h_last', h_le⟩ := h_grows.refreshed last h_last
  exact ⟨last', h_last', h_lt.trans_le h_le⟩

/-- How a refresh ends. -/
def Refreshed (t : ℤ) (r : Except ScrapeError Unit) (w : Registry) : Prop :=
  r ≠ .error .typeError ∧ (r = .ok () → RefreshedAfter t w)

/-- `_is_fresh`: the second reading is no older than the first one, and the same for a thread
with the lock. -/
theorem isFresh_safe {α : Type} {Q : Except ScrapeError α → Registry → Prop}
    {g : Bool → ScrapeProgram α} {observedAt : ℤ}
    (h_true : ∀ w', w.Relies refresher.rules p w' → w'.Fresh refresher.rules →
      RefreshedAfter (observedAt - refresher.refreshInterval) w' →
      (contract refresher.rules).Safe p Q (g true).run w')
    (h_false : ∀ w', w.Relies refresher.rules p w' → w'.Fresh refresher.rules →
      (w.lock = some p → ∀ last ∈ w'.refreshedAt, refresher.refreshInterval ≤ observedAt - last) →
      (contract refresher.rules).Safe p Q (g false).run w') :
    (contract refresher.rules).Safe p Q (refresher.isFresh observedAt >>= g).run w := by
  rw [isFresh, bind_assoc]
  refine look_safe fun w₁ hR₁ h_fresh₁ => ?_
  -- never refreshed
  cases h_last₁ : w₁.refreshedAt with
  | none =>
    refine h_false w₁ hR₁ h_fresh₁ fun _ last h_last => ?_
    rw [h_last₁] at h_last
    exact nomatch h_last
  | some last₁ =>
    dsimp only
    rw [bind_assoc]
    refine look_safe fun w₂ hR₂ h_fresh₂ => ?_
    -- the time is read a second time, and may have moved on
    have hR := hR₁.trans hR₂
    obtain ⟨last₂, h_last₂, h_le⟩ := hR₂.refreshed last₁ h_last₁
    rw [h_last₂]
    by_cases h_lt : observedAt - last₂ < refresher.refreshInterval
    · simp only [h_lt, decide_true]
      exact h_true w₂ hR h_fresh₂ ⟨last₂, h_last₂, by omega⟩
    · simp only [h_lt, decide_false]
      refine h_false w₂ hR h_fresh₂ fun h_lock last h_last => ?_
      rw [h_last₂] at h_last
      obtain rfl := Option.some.inj h_last
      omega

/-- Together, the parts set all gauges. -/
theorem gauge_cases (gauge : Gauge) :
    gauge = .outboxOldestPendingSeconds ∨
    ((∃ channel ∈ channels, ∃ status ∈ deliveryStatuses,
        gauge = .deliveriesByChannelStatus channel status) ∨
      ∃ status ∈ deliveryStatuses, gauge = .deliveriesByStatus status) ∨
    (∃ status ∈ outboxStatuses, gauge = .outboxEventsByStatus status) ∨
    ∃ status ∈ requestStatuses, gauge = .notificationRequestsByStatus status := by
  have h_channel : ∀ channel : Channel, channel ∈ channels := by
    intro channel
    cases channel <;> decide
  have h_delivery : ∀ status : DeliveryStatus, status ∈ deliveryStatuses := by
    intro status
    cases status <;> decide
  have h_outbox : ∀ status : OutboxEventStatus, status ∈ outboxStatuses := by
    intro status
    cases status <;> decide
  -- each family of gauges is set for all of its labels
  cases gauge with
  | outboxOldestPendingSeconds => exact .inl rfl
  | notificationRequestsByStatus status =>
    exact .inr (.inr (.inr ⟨status, by cases status; decide, rfl⟩))
  | outboxEventsByStatus status => exact .inr (.inr (.inl ⟨status, h_outbox status, rfl⟩))
  | deliveriesByStatus status => exact .inr (.inl (.inr ⟨status, h_delivery status, rfl⟩))
  | deliveriesByChannelStatus channel status =>
    exact .inr (.inl (.inl ⟨channel, h_channel channel, status, h_delivery status, rfl⟩))

theorem RefreshedAfter.mono {t' : ℤ} (h : RefreshedAfter t w) (h_le : t' ≤ t) :
    RefreshedAfter t' w := by
  obtain ⟨last, h_last, h_lt⟩ := h
  exact ⟨last, h_last, h_le.trans_lt h_lt⟩

/-- The body under the lock: the gauges are fresh, or all parts have set theirs. -/
theorem refreshLocked_safe (h_lock : w.lock = some p) (h_time : t ≤ w.now.monotonic) :
    (contract refresher.rules).Safe p (fun r w' => w'.lock = some p ∧
      Refreshed (t - refresher.refreshInterval) r w') refresher.refreshLocked.run w := by
  refine look_safe fun w₁ hR₁ h_fresh₁ => ?_
  have h_lock₁ := (hR₁.held h_lock).1
  have h_observed : t ≤ w₁.now.monotonic := h_time.trans hR₁.time
  refine isFresh_safe (fun w₂ hR₂ _ h_after => ?_) fun w₂ hR₂ h_fresh₂ h_due => ?_
  · intro w₃ hR₃ _
    refine ⟨(hR₃.held (hR₂.held h_lock₁).1).1, by simp, fun _ => ?_⟩
    exact (h_after.grows hR₃.toGrows).mono (by omega)
  · -- what was refreshed last is old, and stays the last one
    have h₂ : w₂.Refreshing refresher.rules p w₁.now.monotonic fun _ => False := by
      obtain ⟨h_lock₂, h_same, -⟩ := hR₂.held h_lock₁
      refine ⟨h_lock₂, hR₂.time, fun last h_last => ⟨?_, h_due h_lock₁ last h_last⟩, nofun⟩
      rw [h_same] at h_last
      exact (h_fresh₁.refreshed last h_last).1
    have h_raise : ∀ (e : ScrapeError) (w' : Registry), w'.lock = some p → e ≠ .typeError →
        w'.lock = some p ∧ Refreshed (t - refresher.refreshInterval) (.error e) w' := by
      intro e w' h_lock' h_e
      exact ⟨h_lock', fun h => h_e (Except.error.inj h), nofun⟩
    refine advance_safe h_fresh₂ (notificationRequests_part _ w₂ h_fresh₂ h₂)
      (fun _ w₃ h_fresh₃ h₃ => ?_) h_raise
    refine advance_safe h_fresh₃ (outboxEvents_part _ w₃ h_fresh₃ h₃)
      (fun _ w₄ h_fresh₄ h₄ => ?_) h_raise
    refine advance_safe h_fresh₄ (deliveries_part _ w₄ h_fresh₄ h₄)
      (fun _ w₅ h_fresh₅ h₅ => ?_) h_raise
    -- the last part and the assignment that ends the refresh
    have h_tail : (contract refresher.rules).Safe p (fun r w' => w'.lock = some p ∧
        Refreshed (t - refresher.refreshInterval) r w') (refreshOldestPending >>= fun _ =>
          Cache.assign fun w => { w with refreshedAt := some w₁.now.monotonic } :
            ScrapeProgram Unit).run w₅ := by
      refine advance_safe h_fresh₅ (oldestPending_part _ w₅ h_fresh₅ h₅)
        (fun _ w₆ h_fresh₆ h₆ => ?_) h_raise
      refine assign_safe fun w₇ hR₇ _ => ?_
      have h₇ := h₆.stable hR₇
      refine ⟨h₇.finish fun gauge => ?_, fun w₈ hR₈ => ⟨(hR₈.held h₇.lock).1, by simp, fun _ => ?_⟩⟩
      · exact (gauge_cases gauge).imp_right (Or.imp_right (Or.imp_right Or.inl))
      · have h_after : RefreshedAfter (t - refresher.refreshInterval)
            { w₇ with refreshedAt := some w₁.now.monotonic } :=
          ⟨_, rfl, by have := refresher.refreshInterval_pos; omega⟩
        exact h_after.grows hR₈.toGrows
    simp only [refreshOldestPending, bind_assoc] at h_tail
    exact h_tail

/-- A refresh, from any moment on. -/
theorem refresh_safe (h_lock : w.lock ≠ some p) (h_time : t ≤ w.now.monotonic) :
    (contract refresher.rules).Safe p (fun r w' => w'.lock ≠ some p ∧
      Refreshed (t - refresher.refreshInterval) r w') refresher.refresh.run w := by
  refine look_safe fun w₁ hR₁ _ => ?_
  have h_observed : t ≤ w₁.now.monotonic := h_time.trans hR₁.time
  refine isFresh_safe (fun w₂ hR₂ _ h_after => ?_) fun w₂ hR₂ _ _ => ?_
  · intro w₃ hR₃ _
    refine ⟨hR₃.free (hR₂.free (hR₁.free h_lock)), by simp, fun _ => ?_⟩
    exact (h_after.grows hR₃.toGrows).mono (by omega)
  · refine Cache.withLock_safe (fun r w' w'' h_grows h => ⟨h.1, fun h_ok => ?_⟩)
      fun w₃ h_grows _ h_lock₃ => refreshLocked_safe h_lock₃ ?_
    · exact (h.2 h_ok).grows h_grows
    · exact h_observed.trans (hR₂.time.trans h_grows.time)

/-- A sample shows moments after the time `t`. -/
def ShowsAfter (refresher : PipelineMetricsRefresher) (t : ℤ) (w : Registry)
    (sample : Gauge × ℤ) : Prop :=
  refresher.rules.Shows (fun m => m ∈ w.past ∧ t < m.monotonic) sample.1 sample.2

theorem ShowsAfter.mono {sample : Gauge × ℤ} {w' : Registry}
    (h : refresher.ShowsAfter t w sample) (h_past : w.past ⊆ w'.past) :
    refresher.ShowsAfter t w' sample := by
  refine refresher.rules.mono ?_ h
  intro m hm
  exact ⟨h_past hm.1, hm.2⟩

/-- What is rendered: a sample for each of the gauges. -/
def Rendered (refresher : PipelineMetricsRefresher) (t : ℤ) (gauges : List Gauge)
    (r : Except ScrapeError (List (Gauge × ℤ))) (w : Registry) : Prop :=
  ∃ samples, r = .ok samples ∧ samples.map Prod.fst = gauges ∧
    ∀ sample ∈ samples, refresher.ShowsAfter t w sample

/-- Refreshed gauges are rendered as they are, and later refreshes make them newer. -/
theorem render_safe (gauges : List Gauge) (h_lock : w.lock ≠ some p) (h : RefreshedAfter t w) :
    (contract refresher.rules).Safe p (fun r w' => w'.lock ≠ some p ∧
      refresher.Rendered t gauges r w') (render gauges).run w := by
  induction gauges generalizing w with
  | nil =>
    intro w' hR _
    exact ⟨hR.free h_lock, [], rfl, rfl, by simp⟩
  | cons gauge gauges ih =>
    refine look_safe fun w₁ hR₁ h_fresh₁ => ?_
    have h₁ : RefreshedAfter t w₁ := h.grows hR₁.toGrows
    obtain ⟨last, h_last, h_lt⟩ := h₁
    obtain ⟨value, h_value, h_shows⟩ := (h_fresh₁.refreshed last h_last).2 gauge
    have h_sample : refresher.ShowsAfter t w₁ (gauge, value) := by
      refine refresher.rules.mono ?_ h_shows
      intro m hm
      exact ⟨hm.1, h_lt.trans_le hm.2⟩
    -- what it shows has been, whatever happens while the other gauges are rendered
    have h_rest := (ih (hR₁.free h_lock) (h.grows hR₁.toGrows)).frame
      (F := fun w => refresher.ShowsAfter t w (gauge, value))
      (fun w' w'' (hR : w'.Relies refresher.rules p w'') h => h.mono hR.past)
      (fun w' w'' (h_step : w'.Step refresher.rules p w'') h =>
        h.mono (h_step.past ▸ List.Subset.refl _)) h_sample
    refine Contract.Safe.bind_raising (Cache.discipline _) h_fresh₁
      (h_rest.mono fun r w₂ _ h₂ => ?_)
    obtain ⟨⟨h_lock₂, samples, rfl, h_gauges, h_samples⟩, h_sample₂⟩ := h₂
    dsimp only
    rw [h_value]
    intro w₃ hR₃ _
    refine ⟨hR₃.free h_lock₂, (gauge, value) :: samples, rfl, ?_, ?_⟩
    · rw [List.map_cons, h_gauges]
    · intro sample h_mem
      rcases List.mem_cons.mp h_mem with rfl | h_mem
      · exact h_sample₂.mono hR₃.past
      · exact (h_samples sample h_mem).mono hR₃.past

/-- How a scrape ends. -/
def Scraped (refresher : PipelineMetricsRefresher) (p : Pid) (t : ℤ)
    (r : Except ScrapeError (List (Gauge × ℤ))) (w : Registry) : Prop :=
  w.lock ≠ some p ∧ r ≠ .error .typeError ∧ ∀ samples, r = .ok samples →
    samples.map Prod.fst = Gauge.all ∧
    ∀ sample ∈ samples, refresher.ShowsAfter (t - refresher.refreshInterval) w sample

/-- **Every scrape conforms**, from any moment on. -/
theorem handle_safe (h_fresh : w.Fresh refresher.rules) (h_lock : w.lock ≠ some p)
    (h_time : t ≤ w.now.monotonic) :
    (contract refresher.rules).Safe p (refresher.Scraped p t) refresher.handle.run w := by
  refine Contract.Safe.bind_raising (Cache.discipline _) h_fresh
    ((refresh_safe h_lock h_time).mono fun r w₁ _ h₁ => ?_)
  obtain ⟨h_lock₁, h_error, h_ok⟩ := h₁
  cases r with
  | error e =>
    intro w₂ hR₂ _
    exact ⟨hR₂.free h_lock₁, fun h_eq => h_error (by rw [Except.error.inj h_eq]), nofun⟩
  | ok _ =>
    refine (render_safe Gauge.all h_lock₁ (h_ok rfl)).mono fun r w₂ _ h₂ => ?_
    obtain ⟨h_lock₂, samples, rfl, h_gauges, h_samples⟩ := h₂
    refine ⟨h_lock₂, by simp, fun samples' h_eq => ?_⟩
    obtain rfl := Except.ok.inj h_eq
    exact ⟨h_gauges, h_samples⟩

/-! ### Runs -/

section Runs

variable {m₀ : Moment} {ls ls₀ ls₁ : List (Label Pid Reply Moment)} {c c₀ : ScrapeState}

theorem scrape_verified (refresher : PipelineMetricsRefresher) (m₀ : Moment) :
    (refresher.start m₀).Verified (contract refresher.rules)
      fun p => refresher.Scraped p m₀.monotonic where
  inv := Cache.fresh_start m₀ initialGauges
  safe p m hm := by
    obtain rfl := Option.some.inj hm
    exact handle_safe (Cache.fresh_start m₀ initialGauges) (by simp [start, Cache.start]) le_rfl
  crashed p hp := absurd hp (by simp [start])

/-- The moments that a run goes through. -/
def Visits (refresher : PipelineMetricsRefresher) (m₀ : Moment)
    (ls : List (Label Pid Reply Moment)) (m : Moment) : Prop :=
  ∃ ls₀ ls₁ c₀, ls = ls₀ ++ ls₁ ∧ refresher.Run m₀ ls₀ c₀ ∧ c₀.world.now = m

theorem Run.visits (h : refresher.Run m₀ ls c) {m : Moment} (hm : m ∈ c.world.past) :
    refresher.Visits m₀ ls m := by
  rcases Cache.mem_past (scrape_verified refresher m₀) h hm with h_first | h_later
  · exact ⟨[], ls, refresher.start m₀, rfl, rfl, (List.mem_singleton.mp h_first).symm⟩
  · exact h_later

end Runs

end PipelineMetricsRefresher

/-! ### The guarantees -/

section Guarantees

variable {refresher : PipelineMetricsRefresher} {m₀ : Moment}
  {ls ls₀ ls₁ : List (Label Pid Reply Moment)} {c c₀ : ScrapeState}

/-- **Scrapes are fresh.** A scrape that begins in the state `c₀` and returns has a sample of every
gauge, and each is what the database said at a moment of the run, less than the refresh interval
before `c₀` or later. Only the age of the oldest event needs two moments: the wall clock is read
before the query. -/
theorem scrapes_fresh {p : Pid} {samples : List (Gauge × ℤ)}
    (h : refresher.Run m₀ (ls₀ ++ ls₁) c) (h₀ : refresher.Run m₀ ls₀ c₀)
    (h_new : ∀ i, .run p i ∉ ls₀) (h_ret : c.prog p = some (.ret (.ok samples))) :
    samples.map Prod.fst = Gauge.all ∧ ∀ gauge value, (gauge, value) ∈ samples →
      ∃ m m', refresher.Visits m₀ (ls₀ ++ ls₁) m ∧ refresher.Visits m₀ (ls₀ ++ ls₁) m' ∧
        c₀.world.now.monotonic - refresher.refreshInterval < m.monotonic ∧
        c₀.world.now.monotonic - refresher.refreshInterval < m'.monotonic ∧
        value = gauge.value m.wall m'.database := by
  have h_start := PipelineMetricsRefresher.scrape_verified refresher m₀
  have h_verified₀ := h_start.run (Cache.discipline refresher.rules) h₀
  have h_rest := Machine.run_rest h h₀
  obtain ⟨h_free, h_prog⟩ := Cache.idle_run h_start (by simp [PipelineMetricsRefresher.start,
    Cache.start]) h₀ h_new
  replace h_prog : c₀.prog p = some refresher.handle := by
    rcases h_prog with h_prog | h_none
    · exact h_prog
    · exact absurd ((Machine.run_none h_rest h_none).symm.trans h_ret) (by simp)
  -- from here on, the scrape of `p` is held to the time at which it begins
  have h_from : c₀.Verified (contract refresher.rules) fun q r w =>
      q = p → refresher.Scraped p c₀.world.now.monotonic r w := by
    refine ⟨h_verified₀.inv, fun q m hq => ?_, h_verified₀.crashed⟩
    by_cases h_eq : q = p
    · subst h_eq
      obtain rfl := Option.some.inj (h_prog.symm.trans hq)
      have h_safe := PipelineMetricsRefresher.handle_safe h_verified₀.inv h_free le_rfl
      exact h_safe.mono fun r w _ h_scraped _ => h_scraped
    · exact (h_verified₀.safe q m hq).mono fun r w _ _ h_same => absurd h_same h_eq
  have h_scraped := (h_from.run (Cache.discipline refresher.rules) h_rest).result
    (Cache.discipline refresher.rules) h_ret rfl
  obtain ⟨h_gauges, h_samples⟩ := h_scraped.2.2 samples rfl
  refine ⟨h_gauges, fun gauge value h_mem => ?_⟩
  obtain ⟨m, m', hm, hm', h_value⟩ := h_samples (gauge, value) h_mem
  exact ⟨m, m', PipelineMetricsRefresher.Run.visits h hm.1,
    PipelineMetricsRefresher.Run.visits h hm'.1, hm.2, hm'.2, h_value⟩

/-- **Refreshes are spaced.** In every run, each refresh that is completed was begun at least the
refresh interval after the one before; the lock is held only by a thread that is running, so that
one that raises or dies leaves it free; and no thread meets a time that has been unset. -/
theorem refreshes_spaced (h : refresher.Run m₀ ls c) :
    ((Cache.machine refresher.rules).collect Cache.refreshNoted (refresher.start m₀) ls).IsChain
      (fun t t' => refresher.refreshInterval ≤ t' - t) ∧
    (∀ p, c.world.lock = some p → ∃ (β : Type) (f : Pid → Reply → Registry → Option (β × Registry))
      (k : β → Prog Pid Reply Registry (Except ScrapeError (List (Gauge × ℤ)))),
      c.prog p = some (.act f k)) ∧
    ∀ p, c.prog p ≠ some (.ret (.error .typeError)) := by
  have h_start := PipelineMetricsRefresher.scrape_verified refresher m₀
  have h_verified := h_start.run (Cache.discipline refresher.rules) h
  refine ⟨Cache.refreshes_chain h_start rfl h, fun p h_lock => ?_, fun p h_prog => ?_⟩
  · exact Cache.lock_running (fun _ _ _ hQ => hQ.1) h_start rfl h h_lock
  · exact (h_verified.result (Cache.discipline refresher.rules) h_prog).2.1 rfl

end Guarantees

/-- The default interval, of five seconds. -/
def fiveSeconds : PipelineMetricsRefresher := ⟨5000000000, by decide⟩

/-- Nobody, and nothing in the pipeline. -/
def emptyMoment : Moment where
  monotonic := 0
  wall := 0
  database := .initial 0 ⟨[], [], [], [], List.nodup_nil, List.nodup_nil, List.nodup_nil,
    List.nodup_nil, List.nodup_nil⟩

/-- An event of the outbox that waits for a publisher. -/
def waitingEvent : OutboxEvent where
  id := 11
  topic := "notifications.requests"
  eventType := "notification.requested"
  aggregateType := "notification"
  aggregateId := 10
  eventKey := UUID.str 10
  payload := .obj []
  status := .pending
  attempts := 0
  nextAttemptAt := 0
  leaseExpiresAt := none
  claimedBy := none
  claimToken := none
  publishedAt := none
  lastError := none
  createdAt := .ofInstant 0
  updatedAt := 0

/-- Some seconds later there is an event in the outbox. -/
def waitingMoment (seconds : ℤ) : Moment where
  monotonic := seconds * 1000000000
  wall := seconds * 1000000
  database := { emptyMoment.database with outbox := [waitingEvent] }

/-- `n` actions of `p` without an exception. -/
def turns (p : Pid) (n : ℕ) : List (Label Pid Reply Moment) := List.replicate n (.run p .rows)

/-- The second scrape begins four seconds after the first one, and still shows an empty outbox. -/
theorem scrapes_fresh_cached :
    ∃ c samples, fiveSeconds.Run emptyMoment
        ((turns 0 63 ++ [.env (waitingMoment 4)]) ++ turns 1 28) c ∧
      c.prog 1 = some (.ret (.ok samples)) ∧ samples.map Prod.fst = Gauge.all ∧
      (.outboxEventsByStatus .pending, 0) ∈ samples := by
  obtain ⟨c, h_run, h_c⟩ := Option.map_eq_some_iff.mp (by decide +kernel :
    ((Cache.machine fiveSeconds.rules).run (fiveSeconds.start emptyMoment)
      ((turns 0 63 ++ [.env (waitingMoment 4)]) ++ turns 1 28)).map (fun c =>
        (c.returned 1).any fun r => r.toOption.any fun samples =>
          decide ((.outboxEventsByStatus .pending, 0) ∈ samples)) = some true)
  obtain ⟨r, h_returned, h_r⟩ := (Option.any_eq_true ..).mp h_c
  cases r with
  | error e => exact absurd h_r (by simp [Except.toOption])
  | ok samples =>
    obtain ⟨c₀, h₀, -⟩ := Option.bind_eq_some_iff.mp ((Machine.run_append ..).symm.trans h_run)
    have h_ret := Config.returned_eq.mp h_returned
    obtain ⟨h_gauges, -⟩ := scrapes_fresh h_run h₀ (fun i => by simp [turns]) h_ret
    exact ⟨c, samples, h_run, h_ret, h_gauges, of_decide_eq_true h_r⟩

/-- The first scrape fails in the middle of its refresh; the second one refreshes at once, and the
third one when five seconds have passed. -/
def recoveringSchedule : List (Label Pid Reply Moment) :=
  turns 0 7 ++ [.run 0 (.fail "timeout"), .run 0 .rows, .env (waitingMoment 1)] ++ turns 1 63 ++
    [.env (waitingMoment 6)] ++ turns 2 64

theorem refreshes_spaced_after_failure :
    ∃ c, fiveSeconds.Run emptyMoment recoveringSchedule c ∧
      c.returned 0 = some (.error (.database "timeout")) ∧
      (Cache.machine fiveSeconds.rules).collect Cache.refreshNoted (fiveSeconds.start emptyMoment)
        recoveringSchedule = [1000000000, 6000000000] ∧
      ([1000000000, 6000000000] : List ℤ).IsChain fun t t' =>
        fiveSeconds.refreshInterval ≤ t' - t := by
  obtain ⟨c, h_run, h_c⟩ := Option.map_eq_some_iff.mp (by decide +kernel :
    ((Cache.machine fiveSeconds.rules).run (fiveSeconds.start emptyMoment)
      recoveringSchedule).map (fun c =>
        decide (c.returned 0 = some (.error (.database "timeout")))) = some true)
  have h_noted : (Cache.machine fiveSeconds.rules).collect Cache.refreshNoted
      (fiveSeconds.start emptyMoment) recoveringSchedule = [1000000000, 6000000000] := by
    decide +kernel
  exact ⟨c, h_run, of_decide_eq_true h_c, h_noted, h_noted ▸ (refreshes_spaced h_run).1⟩

end NotificationBroker
