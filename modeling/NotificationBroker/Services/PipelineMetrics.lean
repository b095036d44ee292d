import NotificationBroker.Db.Repositories.Outbox
import NotificationBroker.Framework.Refreshing

/-!
# Pipeline metrics

The gauges of `/metrics` that tell how much is in the pipeline. `PrometheusMetricsEndpoint.handle`
refreshes them from the database, unless that has happened less than `refresh_interval_seconds`
ago, and renders them. The server answers any number of scrapes at a time, each in a thread of its
own, so the refresher's two attributes and the gauges are a `Cache`: the database moves on by
itself, and every query of the refresher may raise.

Readings of the monotonic clock are in nanoseconds. An age is the exact number of microseconds,
of which the gauge has the nearest double in seconds. A query sees the rows that are committed
when it runs.
-/

namespace NotificationBroker

open Interleave Python

/-- `NotificationRequestStatus`. -/
inductive NotificationRequestStatus
  | accepted
deriving DecidableEq

namespace PipelineMetrics

/-! ### The gauges -/

/-- What a scrape can look at: two clocks and the database. -/
structure Moment where
  monotonic : ℤ
  wall : Instant
  database : World

/-- The gauges of `PrometheusMetrics` for the pipeline, with their labels. -/
inductive Gauge
  | outboxOldestPendingSeconds
  | notificationRequestsByStatus (status : NotificationRequestStatus)
  | outboxEventsByStatus (status : OutboxEventStatus)
  | deliveriesByStatus (status : DeliveryStatus)
  | deliveriesByChannelStatus (channel : Channel) (status : DeliveryStatus)
deriving DecidableEq

def requestStatuses : List NotificationRequestStatus := [.accepted]

def outboxStatuses : List OutboxEventStatus :=
  [.pending, .publishing, .published, .failedRetryable, .failedTerminal]

def deliveryStatuses : List DeliveryStatus :=
  [.pending, .processing, .replayRequested, .delivered, .failedRetryable, .failedTerminal]

def channels : List Channel := [.web, .email]

/-- The gauges in the order of their registration. -/
def Gauge.all : List Gauge :=
  .outboxOldestPendingSeconds :: requestStatuses.map .notificationRequestsByStatus ++
    outboxStatuses.map .outboxEventsByStatus ++ deliveryStatuses.map .deliveriesByStatus ++
    channels.flatMap fun channel => deliveryStatuses.map (.deliveriesByChannelStatus channel)

/-- What a query raises, and what `float - None` raises. -/
inductive ScrapeError
  | database (message : String)
  | typeError
deriving DecidableEq

/-- What the database answers: the rows, or an exception. -/
inductive Reply
  | rows
  | fail (message : String)

/-- The refresher's attributes and the gauges. -/
abbrev Registry := Cache Pid Gauge ℤ Moment

/-- A part of a scrape that returns an `α` or raises. -/
abbrev ScrapeProgram (α : Type) := Cache.Thread Pid Reply Gauge ℤ Moment ScrapeError α

/-- A statement of the refresher's session. -/
def select {α : Type} (f : World → α) : ScrapeProgram α :=
  Cache.lookup fun reply now =>
    match reply with
    | .rows => some (.ok (f now.database))
    | .fail message => some (.error (.database message))

/-- `gauge.labels(…).set(value)`. -/
def setGauge (gauge : Gauge) (value : ℤ) : ScrapeProgram Unit :=
  Cache.assign (Cache.set gauge value)

/-- `set_outbox_oldest_pending_seconds`. -/
def setOutboxOldestPendingSeconds (ageSeconds : ℤ) : ScrapeProgram Unit :=
  -- a clock that has been set back gives no negative age
  setGauge .outboxOldestPendingSeconds (max ageSeconds 0)

/-- `set_notification_request_status_count`. -/
def setNotificationRequestStatusCount (status : NotificationRequestStatus) (count : ℕ) :
    ScrapeProgram Unit :=
  setGauge (.notificationRequestsByStatus status) count

/-- `set_outbox_event_status_count`. -/
def setOutboxEventStatusCount (status : OutboxEventStatus) (count : ℕ) : ScrapeProgram Unit :=
  setGauge (.outboxEventsByStatus status) count

/-- `set_delivery_status_count`. -/
def setDeliveryStatusCount (status : DeliveryStatus) (count : ℕ) : ScrapeProgram Unit :=
  setGauge (.deliveriesByStatus status) count

/-- `set_delivery_channel_status_count`. -/
def setDeliveryChannelStatusCount (channel : Channel) (status : DeliveryStatus) (count : ℕ) :
    ScrapeProgram Unit :=
  setGauge (.deliveriesByChannelStatus channel status) count

/-! ### The queries -/

section Counts

variable {κ : Type} [DecidableEq κ]

/-- `SELECT key, count(id) … GROUP BY key`, as a dictionary. -/
def groupCounts (keys : List κ) : List (κ × ℕ) := keys.dedup.map fun key => (key, keys.count key)

/-- `counts.get(key, 0)`. -/
def getCount (counts : List (κ × ℕ)) (key : κ) : ℕ :=
  ((counts.find? fun x => x.1 = key).map Prod.snd).getD 0

end Counts

/-- `_notification_request_counts`. -/
def notificationRequestCounts : ScrapeProgram (List (NotificationRequestStatus × ℕ)) :=
  select fun w => groupCounts (w.notifications.committed.map fun _ => .accepted)

/-- `_outbox_event_counts`. -/
def outboxEventCounts : ScrapeProgram (List (OutboxEventStatus × ℕ)) :=
  select fun w => groupCounts (w.outbox.map OutboxEvent.status)

/-- `_delivery_counts`. -/
def deliveryCounts : ScrapeProgram (List (DeliveryStatus × ℕ)) :=
  select fun w => groupCounts (w.deliveries.committed.map Delivery.status)

/-- `_delivery_channel_counts`. -/
def deliveryChannelCounts : ScrapeProgram (List ((String × DeliveryStatus) × ℕ)) :=
  select fun w => groupCounts (w.deliveries.committed.map fun r => (r.channel, r.status))

/-- What `oldest_publishable_event_age_seconds` makes of the rows. -/
def oldestPublishableEventAge (rows : List OutboxEvent) (now : Instant) : ℤ :=
  match ((rows.filter (·.publishable now)).map fun e => e.createdAt.instant).min? with
  | none => 0
  | some oldestCreatedAt => max (now - oldestCreatedAt) 0

/-- `oldest_publishable_event_age_seconds`. -/
def oldestPublishableEventAgeSeconds (now : Instant) : ScrapeProgram ℤ :=
  select fun w => oldestPublishableEventAge w.outbox now

/-! ### The refresher -/

/-- `_refresh_notification_request_counts`. -/
def refreshNotificationRequestCounts : ScrapeProgram Unit := do
  let counts ← notificationRequestCounts
  Cache.forEach (fun status =>
    setNotificationRequestStatusCount status (getCount counts status)) requestStatuses

/-- `_refresh_outbox_event_counts`. -/
def refreshOutboxEventCounts : ScrapeProgram Unit := do
  let counts ← outboxEventCounts
  Cache.forEach (fun status =>
    setOutboxEventStatusCount status (getCount counts status)) outboxStatuses

/-- `_refresh_delivery_counts`. -/
def refreshDeliveryCounts : ScrapeProgram Unit := do
  let counts ← deliveryCounts
  Cache.forEach (fun status =>
    setDeliveryStatusCount status (getCount counts status)) deliveryStatuses
  let channelCounts ← deliveryChannelCounts
  Cache.forEach (fun channel => Cache.forEach (fun status =>
    setDeliveryChannelStatusCount channel status
      (getCount channelCounts (channel.value, status))) deliveryStatuses) channels

/-- `self._monotonic_clock()`. -/
def monotonicClock : ScrapeProgram ℤ := Cache.look fun w => w.now.monotonic

/-- `self._now()`. -/
def wallClock : ScrapeProgram Instant := Cache.look fun w => w.now.wall

/-- `self._last_refresh_at`. -/
def lastRefreshAt : ScrapeProgram (Option ℤ) := Cache.look fun w => w.refreshedAt

end PipelineMetrics

open PipelineMetrics

/-- The refresher's interval, as the settings admit it. -/
structure PipelineMetricsRefresher where
  refreshInterval : ℤ
  refreshInterval_pos : 0 < refreshInterval

namespace PipelineMetricsRefresher

variable (refresher : PipelineMetricsRefresher)

/-- `_is_fresh`, which reads the attribute twice: another thread may assign it in between. -/
def isFresh (observedAt : ℤ) : ScrapeProgram Bool := do
  match ← lastRefreshAt with
  | none => return false
  | some _ =>
    match ← lastRefreshAt with
    | none => throw .typeError
    | some last => return decide (observedAt - last < refresher.refreshInterval)

/-- The body of `refresh` under the lock. -/
def refreshLocked : ScrapeProgram Unit := do
  let observedAt ← monotonicClock
  -- another thread may have refreshed while this one waited for the lock
  if ← refresher.isFresh observedAt then return ()
  else
    refreshNotificationRequestCounts
    refreshOutboxEventCounts
    refreshDeliveryCounts
    let now ← wallClock
    let age ← oldestPublishableEventAgeSeconds now
    setOutboxOldestPendingSeconds age
    -- the last statement: a refresh that raises is none
    Cache.assign fun w => { w with refreshedAt := some observedAt }

/-- `refresh`. -/
def refresh : ScrapeProgram Unit := do
  let observedAt ← monotonicClock
  if ← refresher.isFresh observedAt then return ()
  else Cache.withLock refresher.refreshLocked

end PipelineMetricsRefresher

/-- `PrometheusMetrics.render`: the samples of the gauges that have been set. -/
def PipelineMetrics.render : List Gauge → ScrapeProgram (List (Gauge × ℤ))
  | [] => return []
  | gauge :: gauges => do
    let value ← Cache.look fun w => w.cells gauge
    let samples ← render gauges
    return match value with
      | some value => (gauge, value) :: samples
      | none => samples

/-- `PrometheusMetricsEndpoint.handle`. -/
def PipelineMetricsRefresher.handle (refresher : PipelineMetricsRefresher) :
    ScrapeProgram (List (Gauge × ℤ)) := do
  refresher.refresh
  render Gauge.all

/-! ### Concurrent scrapes -/

namespace PipelineMetrics

/-- What a gauge should say, by the wall clock and the database. -/
def Gauge.value (now : Instant) (w : World) : Gauge → ℤ
  | .outboxOldestPendingSeconds => oldestPublishableEventAge w.outbox now
  | .notificationRequestsByStatus _ => w.notifications.committed.length
  | .outboxEventsByStatus status => w.outbox.countP (·.status = status)
  | .deliveriesByStatus status => w.deliveries.committed.countP (·.status = status)
  | .deliveriesByChannelStatus channel status =>
    w.deliveries.committed.countP fun r => r.channel = channel.value ∧ r.status = status

/-- Before the first scrape: a gauge without labels is there from the start. -/
def initialGauges : Gauge → Option ℤ
  | .outboxOldestPendingSeconds => some 0
  | _ => none

/-- A state of the concurrent scrapes. -/
abbrev ScrapeState := Config Pid Reply Registry (Except ScrapeError (List (Gauge × ℤ)))

end PipelineMetrics

namespace PipelineMetricsRefresher

/-- A gauge shows the database of one moment, and an age by the wall clock of another one. -/
def rules (refresher : PipelineMetricsRefresher) : CacheRules Gauge ℤ Moment where
  time := Moment.monotonic
  interval := refresher.refreshInterval
  Shows S gauge value := ∃ m m', S m ∧ S m' ∧ value = gauge.value m.wall m'.database
  mono h := fun ⟨m, m', hm, hm', h_value⟩ => ⟨m, m', h m hm, h m' hm', h_value⟩

/-- Every process is about to scrape. -/
def start (refresher : PipelineMetricsRefresher) (now : Moment) : ScrapeState where
  world := .start now initialGauges
  prog _ := some refresher.handle

/-- The schedule `ls` of scrapes and of moments leads from the start to the state `c`. -/
def Run (refresher : PipelineMetricsRefresher) (now : Moment) (ls : List (Label Pid Reply Moment))
    (c : ScrapeState) : Prop :=
  (Cache.machine refresher.rules).run (refresher.start now) ls = some c

end PipelineMetricsRefresher

end NotificationBroker
