import NotificationBroker.Db.World

/-!
# Units of work

A service or worker call is a `Program`: atomic actions on the shared world,
which may raise. `perform` is a statement that does not raise, `attempt` one
that may. `unitOfWork` is the `with` block of `SqlAlchemyUnitOfWork`, which rolls
back when its body raises.
-/

namespace NotificationBroker

open Interleave Python

/-- An atomic action on the world. -/
abbrev Action (α : Type) := Pid → Choice → World → Option (α × World)

/-- A call that returns an `α` or raises. -/
abbrev Program (α : Type) := ExceptT PyError (Prog Pid Choice World) α

/-- A statement that does not raise. -/
def perform {α : Type} (f : Action α) : Program α :=
  ExceptT.mk (Prog.act f fun a => .ret (.ok a))

/-- A statement that returns or raises. -/
def attempt {α : Type} (f : Action (Except PyError α)) : Program α :=
  ExceptT.mk (Prog.act f .ret)

/-- A `SELECT`. -/
def query {α : Type} (f : Pid → World → α) : Program α := perform fun p _ w => some (f p w, w)

/-- A computation in memory. -/
def compute {α : Type} (result : Except PyError α) : Program α := ExceptT.mk (.ret result)

/-- `now = self._now()` and the checks of `_aware_utc_now`: the reading as an
aware UTC datetime, a `ValueError` for a naive one. -/
def awareUtcNow : Program Instant :=
  attempt fun p i w =>
    match i with
    | .time value =>
      let result : Except PyError Instant :=
        if value.utcoffset.isNone then .error (.valueError "now must be timezone-aware")
        else .ok value.instant
      some (result, w.record (.clockRead p value))
    | _ => none

/-- `uow.rollback()`. -/
def rollback : Program Unit := perform fun p _ w => some ((), w.rollback p)

/-- `with self._unit_of_work_factory() as uow:`. -/
def unitOfWork {α : Type} (body : Program α) : Program α := tryCatch body fun e => do
  rollback
  throw e

end NotificationBroker
