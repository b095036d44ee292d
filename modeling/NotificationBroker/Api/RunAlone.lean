import NotificationBroker.Api.Server

/-!
# Endpoints that run alone

The rules of `Prog.Ends` and `Prog.Ends₂` for endpoints. A check or a computation in memory is
decided before the call touches the server, and the call of a service is a run of the service
on its part of the server.
-/

namespace NotificationBroker

open Interleave

variable {α β Store : Type} {p : Pid} {s s₁ s₂ : Server}

/-! ### One run -/

theorem ends_answer {Q : Except EndpointError β → Server → Prop} {result : Except EndpointError α}
    {g : α → ApiProgram β} (h_ok : ∀ a, result = .ok a → Prog.Ends p Q (g a) s)
    (h_error : ∀ e, result = .error e → Q (.error e) s) :
    Prog.Ends p Q (answer result >>= g : ApiProgram β) s := by
  cases result with
  | ok a => exact h_ok a rfl
  | error e => exact Prog.Ends.ret (h_error e rfl)

/-- A check passes, or the call ends with its error answer. -/
theorem ends_check {Q : Except EndpointError β → Server → Prop} {result : Except HTTPException α}
    {g : α → ApiProgram β} (h_ok : ∀ a, result = .ok a → Prog.Ends p Q (g a) s)
    (h_error : ∀ e, Q (.error (.http e)) s) :
    Prog.Ends p Q (check result >>= g : ApiProgram β) s := by
  cases result with
  | ok a => exact h_ok a rfl
  | error e => exact Prog.Ends.ret (h_error e)

/-- The call of a service runs on a part of the server. -/
theorem ends_callService {Q : Except EndpointError β → Server → Prop} {part : Part Server Store}
    {translate : PyError → EndpointError} {service : ExceptT PyError (Prog Pid Choice Store) α}
    {g : α → ApiProgram β}
    (h : Prog.Ends p (fun r w =>
      match r with
      | .ok a => Prog.Ends p Q (g a) (part.put w s)
      | .error e => Q (.error (translate e)) (part.put w s)) service (part.get s)) :
    Prog.Ends p Q (callService part translate service >>= g : ApiProgram β) s := by
  refine Prog.Ends.bind_raising (Prog.Ends.bind (Prog.Ends.within (h.mono fun r w hr => ?_)))
  cases r with
  | ok a => exact Prog.Ends.ret hr
  | error e => exact Prog.Ends.ret hr

/-! ### Two runs -/

variable {C₁ C₂ : Choice → Prop}

/-- Two runs decide a check in the same way. -/
theorem ends₂_answer {Q : Except EndpointError β → Server → Except EndpointError β → Server → Prop}
    {result : Except EndpointError α} {g : α → ApiProgram β}
    (h_ok : ∀ a, result = .ok a → Prog.Ends₂ p C₁ C₂ Q (g a) (g a) s₁ s₂)
    (h_error : ∀ e, Q (.error e) s₁ (.error e) s₂) :
    Prog.Ends₂ p C₁ C₂ Q (answer result >>= g : ApiProgram β) (answer result >>= g : ApiProgram β)
      s₁ s₂ := by
  cases result with
  | ok a => exact h_ok a rfl
  | error e => exact Prog.Ends₂.ret (h_error e)

theorem ends₂_check {Q : Except EndpointError β → Server → Except EndpointError β → Server → Prop}
    {result : Except HTTPException α} {g : α → ApiProgram β}
    (h_ok : ∀ a, result = .ok a → Prog.Ends₂ p C₁ C₂ Q (g a) (g a) s₁ s₂)
    (h_error : ∀ e, Q (.error (.http e)) s₁ (.error (.http e)) s₂) :
    Prog.Ends₂ p C₁ C₂ Q (check result >>= g : ApiProgram β) (check result >>= g : ApiProgram β)
      s₁ s₂ := by
  cases result with
  | ok a => exact h_ok a rfl
  | error e => exact Prog.Ends₂.ret (h_error e)

/-- Two runs of a service, on the parts of the two servers. -/
theorem ends₂_callService
    {Q : Except EndpointError β → Server → Except EndpointError β → Server → Prop}
    {part : Part Server Store} {translate : PyError → EndpointError}
    {service : ExceptT PyError (Prog Pid Choice Store) α} {g : α → ApiProgram β}
    (h : Prog.Ends₂ p C₁ C₂ (fun r₁ w₁ r₂ w₂ =>
      match r₁, r₂ with
      | .ok a₁, .ok a₂ => Prog.Ends₂ p C₁ C₂ Q (g a₁) (g a₂) (part.put w₁ s₁) (part.put w₂ s₂)
      | .error e₁, .error e₂ =>
        Q (.error (translate e₁)) (part.put w₁ s₁) (.error (translate e₂)) (part.put w₂ s₂)
      | _, _ => False) service service (part.get s₁) (part.get s₂)) :
    Prog.Ends₂ p C₁ C₂ Q (callService part translate service >>= g : ApiProgram β)
      (callService part translate service >>= g : ApiProgram β) s₁ s₂ := by
  refine Prog.Ends₂.bind_raising (Prog.Ends₂.bind (Prog.Ends₂.within
    (h.mono fun r₁ w₁ r₂ w₂ hr => ?_)))
  -- both services return, or both raise
  cases r₁ with
  | ok a₁ =>
    cases r₂ with
    | ok a₂ => exact Prog.Ends₂.ret hr
    | error e₂ => exact hr.elim
  | error e₁ =>
    cases r₂ with
    | ok a₂ => exact hr.elim
    | error e₂ => exact Prog.Ends₂.ret hr

end NotificationBroker
