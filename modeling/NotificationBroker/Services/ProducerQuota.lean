import NotificationBroker.Db.World
import NotificationBroker.Domain.Errors
import NotificationBroker.Framework.Counters
import NotificationBroker.Python.Calendar
import NotificationBroker.Python.Float

/-!
# Producer quotas

`ProducerQuotaService.consume` counts the requests of a source service in windows of whole
seconds. The table `producer_quotas` has a database transaction of its own, so that its calls
run on a store of their own, the counters of `ReadCommitted.Counters`: one counter for every
source service and window start.

Any number of calls run interleaved (`quotaMachine`). They read clocks that need not agree,
and a call that stops before its commit has no effect.
-/

namespace NotificationBroker

open Interleave Python
open ReadCommitted (Counters Ticket)

/-- The primary key of `producer_quotas`. -/
structure QuotaKey where
  sourceService : String
  windowStart : Instant
deriving DecidableEq

/-- The table `producer_quotas`. The clock readings of the calls are kept as well; no code
reads them. -/
structure QuotaStore where
  producerQuotas : Counters Pid QuotaKey
  readings : List (Pid × Instant)

namespace QuotaStore

/-- A table without rows. -/
def initial : QuotaStore := ⟨.empty, []⟩

/-- `session.rollback()`. -/
def rollback (p : Pid) (w : QuotaStore) : QuotaStore :=
  { w with producerQuotas := w.producerQuotas.abort p }

end QuotaStore

/-- A call on the quota table that returns an `α` or raises. -/
abbrev QuotaProgram (α : Type) := ExceptT PyError (Prog Pid Choice QuotaStore) α

namespace QuotaProgram

/-- A statement that returns or raises. -/
def attempt {α : Type} (f : Pid → Choice → QuotaStore → Option (Except PyError α × QuotaStore)) :
    QuotaProgram α :=
  ExceptT.mk (Prog.act f .ret)

/-- A computation in memory. -/
def compute {α : Type} (result : Except PyError α) : QuotaProgram α := ExceptT.mk (.ret result)

/-- `with self._unit_of_work_factory() as uow:`. -/
def unitOfWork {α : Type} (body : QuotaProgram α) : QuotaProgram α := tryCatch body fun e => do
  attempt fun p _ w => some (.ok (), w.rollback p)
  throw e

end QuotaProgram

namespace ProducerQuotaRepository

/-- The greatest value of a column of type `Integer`. -/
def maxInteger : ℕ := 2147483647

/-- `increment`: the statement waits for a transaction that holds the row. -/
def increment (sourceService : String) (windowStart : Instant) : QuotaProgram ℕ :=
  .attempt fun p _ w =>
    let key : QuotaKey := ⟨sourceService, windowStart⟩
    let requestCount := w.producerQuotas.latest key + 1
    if w.producerQuotas.Locked p key then none
    else if requestCount ≤ maxInteger then
      some (.ok requestCount, { w with producerQuotas := w.producerQuotas.increment p key })
    else some (.error (.external "integer out of range"), w)

/-- `uow.commit()`. -/
def commit : QuotaProgram Unit :=
  .attempt fun p _ w => some (.ok (), { w with producerQuotas := w.producerQuotas.commit p })

end ProducerQuotaRepository

/-- The service's parameters, as its constructor admits them: the window is given in whole
seconds. -/
structure ProducerQuotaService where
  limit : ℤ
  window : ℤ
  limit_pos : 0 < limit
  window_pos : 0 < window
  window_whole : window % 1000000 = 0

namespace ProducerQuotaService

/-- `ProducerQuotaService.__init__`. -/
def make (limit window : ℤ) : Except PyError ProducerQuotaService :=
  if h_limit : limit ≤ 0 then .error (.valueError "limit must be positive")
  else if h_window : window ≤ 0 ∨ window % 1000000 ≠ 0 then
    .error (.valueError "window must be a positive whole-second duration")
  else .ok ⟨limit, window, by omega, by omega, by omega⟩

variable (service : ProducerQuotaService)

/-- `_aware_utc_now`. A reading whose UTC time is before the year 1 or after the year 9999 is
none that `astimezone` can convert. -/
def awareUtcNow : QuotaProgram Instant :=
  .attempt fun p i w =>
    match i with
    | .time value =>
      let result : Except PyError Instant :=
        if value.utcoffset.isNone then .error (.valueError "now must be timezone-aware")
        else if Datetime.InRange value.instant then .ok value.instant
        else .error .overflowError
      some (result, { w with readings := w.readings ++ [(p, value.instant)] })
    | _ => none

/-- The start of the window of `now`, as `consume` computes it. The seconds of
`int(now.timestamp())` are those of the exact reading, which a double gives until the year 2514. -/
def windowStart (now : Instant) : Except PyError Instant :=
  let windowSeconds := service.window / 1000000
  let epochSeconds := now.tdiv 1000000
  let windowStartSeconds := epochSeconds - epochSeconds % windowSeconds
  if Datetime.InRange (windowStartSeconds * 1000000) then .ok (windowStartSeconds * 1000000)
  else .error (.valueError ("year must be in 1..9999, not " ++
    toString (Datetime.civil (windowStartSeconds * 1000000 / 86400000000)).1))

/-- What `consume` makes of the count it gets. -/
def verdict (windowStart now : Instant) (requestCount : ℕ) : Except PyError Unit :=
  if (requestCount : ℤ) > service.limit then
    let retryAt := windowStart + service.window
    if Datetime.InRange retryAt then
      .error (.producerQuotaExceeded (max ⌈Timedelta.totalSeconds (retryAt - now)⌉ 1))
    -- `window_start + self._window` is no `datetime`
    else .error .overflowError
  else .ok ()

/-- `consume`. -/
def consume (sourceService : String) : QuotaProgram Unit := do
  let now ← awareUtcNow
  let windowStart ← QuotaProgram.compute (service.windowStart now)
  -- the count is committed before the limit is looked at
  let requestCount ← QuotaProgram.unitOfWork do
    let requestCount ← ProducerQuotaRepository.increment sourceService windowStart
    ProducerQuotaRepository.commit
    return requestCount
  QuotaProgram.compute (service.verdict windowStart now requestCount)

end ProducerQuotaService

/-! ### Interleaved calls -/

/-- Nothing but the calls acts on the table. -/
def quotaMachine : Machine Pid Empty QuotaStore := ⟨nofun, QuotaStore.rollback⟩

/-- A state of the interleaved calls. -/
abbrev QuotaState := Config Pid Choice QuotaStore (Except PyError Unit)

/-- An empty table, and every process about to consume for its source service. -/
def ProducerQuotaService.start (service : ProducerQuotaService) (callers : Pid → String) :
    QuotaState where
  world := .initial
  prog p := some (service.consume (callers p))

/-- The schedule `ls` leads from the start to the state `c`. -/
def ProducerQuotaService.Run (service : ProducerQuotaService) (callers : Pid → String)
    (ls : List (Label Pid Choice Empty)) (c : QuotaState) : Prop :=
  quotaMachine.run (service.start callers) ls = some c

end NotificationBroker
