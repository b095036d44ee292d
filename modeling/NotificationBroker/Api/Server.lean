import NotificationBroker.Api.Responses
import NotificationBroker.Db.UnitOfWork
import NotificationBroker.Framework.Parts
import NotificationBroker.Services.ProducerQuota

/-!
# Endpoints as programs

An endpoint is a program on the state of the server: the world, and the table of the producers'
quotas, which has transactions of its own. It answers with a response, or with an error. The
services that it calls are programs on one of the two parts (`callService`), and an exception
that a service raises is translated by the `except` clauses around the call.
-/

namespace NotificationBroker

open Interleave

/-- What the endpoints of the server share. -/
structure Server where
  world : World
  quotas : QuotaStore

namespace Server

/-- The world. -/
def worldPart : Part Server World where
  get := Server.world
  put w s := { s with world := w }
  get_put _ _ := rfl
  put_get _ := rfl
  put_put _ _ _ := rfl

/-- The quotas. -/
def quotaPart : Part Server QuotaStore where
  get := Server.quotas
  put q s := { s with quotas := q }
  get_put _ _ := rfl
  put_get _ := rfl
  put_put _ _ _ := rfl

end Server

/-- A call of an endpoint. -/
abbrev ApiProgram (α : Type) := ExceptT EndpointError (Prog Pid Choice Server) α

/-- A computation in memory. -/
def answer {α : Type} (result : Except EndpointError α) : ApiProgram α := ExceptT.mk (.ret result)

/-- A check that refuses the call with an error answer. -/
def check {α : Type} (result : Except HTTPException α) : ApiProgram α :=
  answer (result.mapError .http)

/-- The call of a service, with the `except` clauses around it. -/
def callService {Store α : Type} (part : Part Server Store) (translate : PyError → EndpointError)
    (service : ExceptT PyError (Prog Pid Choice Store) α) : ApiProgram α :=
  ExceptT.mk (Prog.within part service >>= fun result => .ret (result.mapError translate))

/-- The status code of a retry: accepted, if anything has been queued. -/
def retryStatusCode : ActionInvocationResult → ℕ
  | .queued => 202
  | _ => 200

end NotificationBroker
