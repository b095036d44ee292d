import NotificationBroker.Framework.Stages
import NotificationBroker.Properties.QuotaCounts
import NotificationBroker.Properties.SchemaConstraints
import NotificationBroker.System.Server

/-!
# Runs of the server

`server_refines` reads a run of the server as two runs that know nothing of each other: one of
`consume` calls on the table of quotas, and one of the calls of a `Deployment` on the world. What
is proved of every run of either kind holds of the server.

The two runs are related by the stages of the requests (`Framework.Stages`). A creation first
runs `consume`, and calls its service only if that returns; every other request calls its service
at once. The list of a user's notifications is no call of the deployment, since it writes nothing:
even its rollback finds nothing to undo. What it answers is the page of a state of the run, the
one that its query has read (`ServerDeployment.Run.listed`).
-/

namespace NotificationBroker

open Interleave Interleave.Prog Python
open ReadCommitted (Table Counters)

/-! ### The two views of a process -/

/-- The service call behind a request. What has none counts as a call that never starts. -/
def ServerCall.call : ServerCall → Call
  | .createNotification service principal request =>
    match request.toDomain with
    | .ok input => .createNotification service principal.subject input request.idempotencyKey
    | .error _ => .markRead 0 0
  | .retryNotification principal notificationId =>
    .retryNotificationForService notificationId principal.subject
      (decide ("notifications:retry:any" ∈ principal.scopes))
  | .listNotifications .. => .markRead 0 0
  | .markNotificationRead principal webNotificationId =>
    match UUID.parse principal.subject with
    | some userId => .markRead userId webNotificationId
    | none => .markRead 0 0
  | .retryNotificationAction principal webNotificationId =>
    match UUID.parse principal.subject with
    | some userId => .retryUserNotification webNotificationId userId
    | none => .markRead 0 0
  | .background call _ => call

/-- The source service whose quota a request is counted against. -/
def ServerCall.caller : ServerCall → String
  | .createNotification _ principal _ => principal.subject
  | _ => ""

/-- The response of a request for the result of its service. -/
def ServerCall.respond : ServerCall → Answer → Option ServerAnswer
  | .createNotification .., .created result =>
    some (.created ⟨202, ⟨result.notificationId, "accepted", result.recipientCount,
      result.deliveryCount, decide (result.status = .existing)⟩⟩)
  | .retryNotification .., .retried result | .retryNotificationAction .., .retried result =>
    some (.retried ⟨retryStatusCode result.status,
      ⟨result.replayId, result.status, result.replayedDeliveryCount⟩⟩)
  | .markNotificationRead .., .read result =>
    some (.marked ⟨200, ⟨result.webNotificationId, (Datetime.ofInstant result.readAt).isoformat⟩⟩)
  | .background .., answer => some (.background answer)
  | _, _ => none

/-- The checks of an endpoint of users. -/
def UserRoutes.admit (principal : AuthenticatedPrincipal) : Except EndpointError UUID := do
  (principal.requireType "user").mapError .http
  (principal.requireScope "notifications:read").mapError .http
  (userIdFromPrincipal principal).mapError .http

namespace ServerDeployment

variable (d : ServerDeployment)

/-- The calls on the world. -/
def deployment : Deployment := ⟨d.sha256, fun p => (d.calls p).call⟩

/-- The callers of `consume`. -/
def callers (p : Pid) : String := (d.calls p).caller

/-- An endpoint, with results in place of what it calls: of `consume`, of the query of the list in
the world `w`, and of the service. -/
def answer (w : World) (admission : Except PyError Unit) (result : Outcome) :
    ServerCall → Except EndpointError (Option ServerAnswer)
  | .createNotification service principal request => do
    (principal.requireType "service").mapError .http
    (principal.requireScope "notifications:write").mapError .http
    admission.mapError NotificationRoutes.overQuota
    let _ ← request.toDomain.mapError NotificationRoutes.conflicting
    let created ← result.mapError NotificationRoutes.conflicting
    return (ServerCall.createNotification service principal request).respond created
  | .retryNotification principal notificationId => do
    (principal.requireType "service").mapError .http
    (NotificationRoutes.requireRetryScope principal).mapError .http
    let retried ← result.mapError NotificationRoutes.refusedRetry
    return (ServerCall.retryNotification principal notificationId).respond retried
  | .listNotifications codec principal status limit cursor => do
    let userId ← UserRoutes.admit principal
    let shown ← UserRoutes.page d.hmacSha256 d.floatOf codec w.deliveries.committed
      w.notifications.committed userId status limit cursor
    return some (.listed ⟨200, UserRoutes.listResponse shown⟩)
  | .markNotificationRead principal webNotificationId => do
    let _ ← UserRoutes.admit principal
    let marked ← result.mapError UserRoutes.hidden
    return (ServerCall.markNotificationRead principal webNotificationId).respond marked
  | .retryNotificationAction principal webNotificationId => do
    let _ ← UserRoutes.admit principal
    let retried ← result.mapError UserRoutes.hidden
    return (ServerCall.retryNotificationAction principal webNotificationId).respond retried
  | .background call h_worker => do
    let ended ← result.mapError .raised
    return (ServerCall.background call h_worker).respond ended

/-- The service call of the process has not started, or has ended, and the response is that of the
endpoint for the results there are: where `consume` or the service has none, it is the same for
every result. -/
def Answers (p : Pid) (x : Prog Pid Choice QuotaStore (Except PyError Unit))
    (y : Prog Pid Choice World Outcome) (w : World) (response : Except EndpointError ServerAnswer) :
    Prop :=
  (y = (d.deployment.calls p).program d.sha256 ∨ ∃ result, y = .ret result) ∧
    ∀ admission result, (∀ a, x = .ret a → a = admission) → (∀ r, y = .ret r → r = result) →
      response.map some = d.answer w admission result (d.calls p)

/-- The request is one for a user's list. -/
def Lists (p : Pid) : Prop := ∃ codec principal status limit cursor,
  d.calls p = .listNotifications codec principal status limit cursor

/-- The two programs of the process of `p`. -/
def role (p : Pid) : Role Pid Choice QuotaStore World (Except PyError Unit) Outcome
    (Except EndpointError ServerAnswer) where
  start := (d.deployment.calls p).program d.sha256
  Ready x := ∀ service principal request,
    d.calls p = .createNotification service principal request → x = .ret (.ok ())
  Idle w w' := d.Lists p ∧ (w' = w ∨ w' = w.rollback p)
  Answers x y response := (d.Lists p → y = (d.deployment.calls p).program d.sha256) ∧
    (¬ d.Lists p → ∀ w, d.Answers p x y w response)

end ServerDeployment

/-! ### Stages of an endpoint -/

section Stages

variable {α β : Type} {p : Pid} {R : Role Pid Choice QuotaStore World (Except PyError Unit) Outcome
  (Except EndpointError β)} {x : Prog Pid Choice QuotaStore (Except PyError Unit)}

/-- A check that fails ends the request before anything is called. -/
theorem staged_answer {r : Except EndpointError α} {rest : α → ApiProgram β}
    (h_error : ∀ e, r = .error e → R.Answers x R.start (.error e))
    (h : ∀ a, r = .ok a → Staged Server.quotaPart Server.worldPart p R x R.start (rest a)) :
    Staged Server.quotaPart Server.worldPart p R x R.start
      (answer r >>= rest : ApiProgram β) := by
  cases r with
  | error e => exact .done (.inl rfl) (h_error e rfl)
  | ok a => exact h a rfl

theorem staged_check {r : Except HTTPException α} {rest : α → ApiProgram β}
    (h_error : ∀ e, r = .error e → R.Answers x R.start (.error (.http e)))
    (h : ∀ a, r = .ok a → Staged Server.quotaPart Server.worldPart p R x R.start (rest a)) :
    Staged Server.quotaPart Server.worldPart p R x R.start
      (check r >>= rest : ApiProgram β) := by
  cases r with
  | error e => exact .done (.inl rfl) (h_error e rfl)
  | ok a => exact h a rfl

/-- The checks of the endpoints of users. -/
theorem staged_admit {principal : AuthenticatedPrincipal} {rest : UUID → ApiProgram β}
    (h_error : ∀ e, UserRoutes.admit principal = .error e → R.Answers x R.start (.error e))
    (h : ∀ userId, UserRoutes.admit principal = .ok userId →
      Staged Server.quotaPart Server.worldPart p R x R.start (rest userId)) :
    Staged Server.quotaPart Server.worldPart p R x R.start (do
      check (principal.requireType "user")
      check (principal.requireScope "notifications:read")
      let userId ← check (UserRoutes.userIdFromPrincipal principal)
      rest userId : ApiProgram β) := by
  unfold UserRoutes.admit at h_error h
  refine staged_check (fun e h_type => h_error _ (by rw [h_type]; rfl)) fun _ h_type => ?_
  refine staged_check (fun e h_scope => h_error _ (by rw [h_type, h_scope]; rfl))
    fun _ h_scope => ?_
  refine staged_check (fun e h_user => h_error _ (by rw [h_type, h_scope, h_user]; rfl))
    fun userId h_user => h userId (by rw [h_type, h_scope, h_user]; rfl)

/-- A service and what comes after it. -/
theorem callService_bind {Store : Type} {part : Interleave.Part Server Store}
    {translate : PyError → EndpointError} {service : ExceptT PyError (Prog Pid Choice Store) α}
    {rest : α → ApiProgram β} :
    (callService part translate service >>= rest : ApiProgram β) =
      ExceptT.mk (Prog.within part service >>= fun result =>
        ExceptT.bindCont rest (result.mapError translate)) :=
  bind_assoc (Prog.within part service) _ _

/-- The service of a request, and its response. -/
theorem staged_service {translate : PyError → EndpointError} {service : Program α}
    (wrap : α → Answer) {response : α → β} (h_start : R.start = Program.answer wrap service)
    (h_ready : R.Ready x) (h_ok : ∀ a, R.Answers x (.ret (.ok (wrap a))) (.ok (response a)))
    (h_error : ∀ e, R.Answers x (.ret (.error e)) (.error (translate e))) :
    Staged Server.quotaPart Server.worldPart p R x R.start
      (callService Server.worldPart translate service >>= fun a => pure (response a) :
        ApiProgram β) := by
  -- the service, and then its result as an answer
  have h_answer : (Program.answer wrap service : Prog Pid Choice World Outcome) =
      Bind.bind (m := Prog Pid Choice World) service fun r => .ret (r.map wrap) := by
    refine congrArg (Bind.bind (m := Prog Pid Choice World) service) (funext fun r => ?_)
    cases r <;> rfl
  -- the endpoint and the process run the same service
  rw [h_start, h_answer, callService_bind]
  refine .second service _ _ h_ready fun r => ?_
  cases r with
  | ok a => exact ⟨_, rfl, h_ok a⟩
  | error e => exact ⟨_, rfl, h_error e⟩

/-- The response of an endpoint, as an answer of the server. -/
theorem ServerDeployment.staged_wrap {d : ServerDeployment} {y : Prog Pid Choice World Outcome}
    (wrap : α → ServerAnswer) {m : ApiProgram α}
    (h : Staged Server.quotaPart Server.worldPart p
      { d.role p with Answers := fun x y c => (d.role p).Answers x y (c.map wrap) } x y m) :
    Staged Server.quotaPart Server.worldPart p (d.role p) x y
      (do let response ← m; return wrap response : ApiProgram ServerAnswer) := by
  have h_last : (do let response ← m; return wrap response : ApiProgram ServerAnswer) =
      Bind.bind (m := Prog Pid Choice Server) m fun c => .ret (c.map wrap) := by
    refine congrArg (Bind.bind (m := Prog Pid Choice Server) m) (funext fun r => ?_)
    cases r <;> rfl
  rw [h_last]
  exact h.map (Except.map wrap) rfl rfl rfl fun _ _ _ h => h

end Stages

/-! ### The endpoints -/

section Endpoints

variable {d : ServerDeployment} {p : Pid}

/-- An answer without a call of the service. -/
theorem ServerDeployment.answers_start {x : Prog Pid Choice QuotaStore (Except PyError Unit)}
    {response : Except EndpointError ServerAnswer} (h_not : ¬ d.Lists p)
    (h : ∀ w admission result, (∀ a, x = .ret a → a = admission) →
      response.map some = d.answer w admission result (d.calls p)) :
    (d.role p).Answers x (d.role p).start response :=
  ⟨fun h_lists => absurd h_lists h_not,
    fun _ w => ⟨.inl rfl, fun admission result hx _ => h w admission result hx⟩⟩

/-- An answer for the result of the service. -/
theorem ServerDeployment.answers_ret {x : Prog Pid Choice QuotaStore (Except PyError Unit)}
    {response : Except EndpointError ServerAnswer} {result : Outcome} (h_not : ¬ d.Lists p)
    (h : ∀ w admission, (∀ a, x = .ret a → a = admission) →
      response.map some = d.answer w admission result (d.calls p)) :
    (d.role p).Answers x (.ret result) response := by
  refine ⟨fun h_lists => absurd h_lists h_not, fun _ w => ⟨.inr ⟨result, rfl⟩, ?_⟩⟩
  intro admission result' hx h_result
  obtain rfl := h_result result rfl
  exact h w admission hx

theorem ServerDeployment.not_lists {call : ServerCall} (h_call : d.calls p = call)
    (h : ∀ codec principal status limit cursor,
      call ≠ .listNotifications codec principal status limit cursor) : ¬ d.Lists p := by
  rintro ⟨codec, principal, status, limit, cursor, h_lists⟩
  exact h codec principal status limit cursor (h_call.symm.trans h_lists)

theorem ServerDeployment.ready_of_ne
    {x : Prog Pid Choice QuotaStore (Except PyError Unit)}
    (h : ∀ service principal request,
      d.calls p ≠ .createNotification service principal request) : (d.role p).Ready x :=
  fun service principal request h_call => absurd h_call (h service principal request)

/-- The program of a process that calls a service of the world. -/
theorem ServerDeployment.role_start {call : ServerCall} (h_call : d.calls p = call) :
    (d.role p).start = call.call.program d.sha256 :=
  congrArg (fun c => (ServerCall.call c).program d.sha256) h_call

theorem createNotification_staged {service : NotificationCreationService}
    {principal : AuthenticatedPrincipal} {request : CreateNotificationRequest}
    (h_call : d.calls p = .createNotification service principal request) :
    Staged Server.quotaPart Server.worldPart p (d.role p)
      (d.quotaService.consume principal.subject) (d.role p).start (d.program (d.calls p)) := by
  have h_not := ServerDeployment.not_lists h_call (by simp)
  rw [h_call]
  refine ServerDeployment.staged_wrap .created ?_
  -- the checks
  refine staged_check (fun e h_type => ServerDeployment.answers_start h_not fun _ _ _ _ => ?_)
    fun _ h_type => ?_
  · rw [h_call, ServerDeployment.answer, h_type]
    rfl
  refine staged_check (fun e h_scope => ServerDeployment.answers_start h_not fun _ _ _ _ => ?_)
    fun _ h_scope => ?_
  · rw [h_call, ServerDeployment.answer, h_type, h_scope]
    rfl
  -- the quota
  rw [callService_bind]
  refine .first _ fun r => ?_
  cases r with
  | error e =>
    refine .done (.inl rfl) (ServerDeployment.answers_start h_not fun _ admission _ hx => ?_)
    rw [h_call, ServerDeployment.answer, h_type, h_scope, ← hx (.error e) rfl]
    rfl
  | ok u =>
    refine staged_answer (fun e h_domain => ServerDeployment.answers_start h_not fun _ _ _ hx => ?_)
      fun input h_input => ?_
    · rw [h_call, ServerDeployment.answer, h_type, h_scope, ← hx (.ok u) rfl, h_domain]
      rfl
    -- the service
    have h_domain : request.toDomain = .ok input := by
      cases h : request.toDomain with
      | error e => rw [h] at h_input; exact absurd h_input (by simp [Except.mapError])
      | ok input' => rw [h] at h_input; exact congrArg Except.ok (Except.ok.inj h_input)
    refine staged_service .created ?_ (fun _ _ _ _ => rfl) (fun result => ?_) fun e => ?_
    · refine (ServerDeployment.role_start h_call).trans ?_
      rw [ServerCall.call, h_domain]
      rfl
    · refine ServerDeployment.answers_ret h_not fun _ _ hx => ?_
      rw [h_call, ServerDeployment.answer, h_type, h_scope, ← hx (.ok u) rfl, h_domain]
      rfl
    · refine ServerDeployment.answers_ret h_not fun _ _ hx => ?_
      rw [h_call, ServerDeployment.answer, h_type, h_scope, ← hx (.ok u) rfl, h_domain]
      rfl

theorem retryNotification_staged {principal : AuthenticatedPrincipal} {notificationId : UUID}
    (h_call : d.calls p = .retryNotification principal notificationId)
    (x : Prog Pid Choice QuotaStore (Except PyError Unit)) :
    Staged Server.quotaPart Server.worldPart p (d.role p) x (d.role p).start
      (d.program (d.calls p)) := by
  have h_not := ServerDeployment.not_lists h_call (by simp)
  rw [h_call]
  refine ServerDeployment.staged_wrap .retried ?_
  -- the checks
  refine staged_check (fun e h_type => ServerDeployment.answers_start h_not fun _ _ _ _ => ?_)
    fun _ h_type => ?_
  · rw [h_call, ServerDeployment.answer, h_type]
    rfl
  refine staged_check (fun e h_scope => ServerDeployment.answers_start h_not fun _ _ _ _ => ?_)
    fun _ h_scope => ?_
  · rw [h_call, ServerDeployment.answer, h_type, h_scope]
    rfl
  -- the service
  refine staged_service .retried (ServerDeployment.role_start h_call)
    (ServerDeployment.ready_of_ne (by simp [h_call])) (fun result => ?_) fun e => ?_
  · refine ServerDeployment.answers_ret h_not fun _ _ _ => ?_
    rw [h_call, ServerDeployment.answer, h_type, h_scope]
    rfl
  · refine ServerDeployment.answers_ret h_not fun _ _ _ => ?_
    rw [h_call, ServerDeployment.answer, h_type, h_scope]
    rfl

/-- The user of the subject. -/
theorem UserRoutes.parse_of_admit {principal : AuthenticatedPrincipal} {userId : UUID}
    (h : UserRoutes.admit principal = .ok userId) : UUID.parse principal.subject = some userId := by
  unfold UserRoutes.admit UserRoutes.userIdFromPrincipal at h
  cases h_type : principal.requireType "user" with
  | error e => rw [h_type] at h; exact absurd h (by simp [Except.mapError, Bind.bind, Except.bind])
  | ok _ =>
    cases h_scope : principal.requireScope "notifications:read" with
    | error e =>
      rw [h_type, h_scope] at h
      exact absurd h (by simp [Except.mapError, Bind.bind, Except.bind])
    | ok _ =>
      cases h_parse : UUID.parse principal.subject with
      | none =>
        rw [h_type, h_scope, h_parse] at h
        exact absurd h (by simp [Except.mapError, Bind.bind, Except.bind])
      | some parsed =>
        rw [h_type, h_scope, h_parse] at h
        exact congrArg some (Except.ok.inj h)

theorem markNotificationRead_staged {principal : AuthenticatedPrincipal} {webNotificationId : UUID}
    (h_call : d.calls p = .markNotificationRead principal webNotificationId)
    (x : Prog Pid Choice QuotaStore (Except PyError Unit)) :
    Staged Server.quotaPart Server.worldPart p (d.role p) x (d.role p).start
      (d.program (d.calls p)) := by
  have h_not := ServerDeployment.not_lists h_call (by simp)
  rw [h_call]
  refine ServerDeployment.staged_wrap .marked ?_
  -- the checks
  refine staged_admit (fun e h_user => ServerDeployment.answers_start h_not fun _ _ _ _ => ?_)
    fun userId h_user => ?_
  · rw [h_call, ServerDeployment.answer, h_user]
    rfl
  -- the service, for the user of the subject
  refine staged_service .read ?_ (ServerDeployment.ready_of_ne (by simp [h_call]))
    (fun result => ?_) fun e => ?_
  · refine (ServerDeployment.role_start h_call).trans ?_
    rw [ServerCall.call, UserRoutes.parse_of_admit h_user]
    rfl
  · refine ServerDeployment.answers_ret h_not fun _ _ _ => ?_
    rw [h_call, ServerDeployment.answer, h_user]
    rfl
  · refine ServerDeployment.answers_ret h_not fun _ _ _ => ?_
    rw [h_call, ServerDeployment.answer, h_user]
    rfl

theorem retryNotificationAction_staged {principal : AuthenticatedPrincipal}
    {webNotificationId : UUID}
    (h_call : d.calls p = .retryNotificationAction principal webNotificationId)
    (x : Prog Pid Choice QuotaStore (Except PyError Unit)) :
    Staged Server.quotaPart Server.worldPart p (d.role p) x (d.role p).start
      (d.program (d.calls p)) := by
  have h_not := ServerDeployment.not_lists h_call (by simp)
  rw [h_call]
  refine ServerDeployment.staged_wrap .retried ?_
  -- the checks
  refine staged_admit (fun e h_user => ServerDeployment.answers_start h_not fun _ _ _ _ => ?_)
    fun userId h_user => ?_
  · rw [h_call, ServerDeployment.answer, h_user]
    rfl
  -- the service, for the user of the subject
  refine staged_service .retried ?_ (ServerDeployment.ready_of_ne (by simp [h_call]))
    (fun result => ?_) fun e => ?_
  · refine (ServerDeployment.role_start h_call).trans ?_
    rw [ServerCall.call, UserRoutes.parse_of_admit h_user]
    rfl
  · refine ServerDeployment.answers_ret h_not fun _ _ _ => ?_
    rw [h_call, ServerDeployment.answer, h_user]
    rfl
  · refine ServerDeployment.answers_ret h_not fun _ _ _ => ?_
    rw [h_call, ServerDeployment.answer, h_user]
    rfl

/-- The list is read beside the calls of the deployment. -/
theorem listNotifications_staged {codec : WebNotificationCursorCodec}
    {principal : AuthenticatedPrincipal} {status : WebNotificationStatus} {limit : ℕ}
    {cursor : Option String}
    (h_call : d.calls p = .listNotifications codec principal status limit cursor)
    (x : Prog Pid Choice QuotaStore (Except PyError Unit)) :
    Staged Server.quotaPart Server.worldPart p (d.role p) x (d.role p).start
      (d.program (d.calls p)) := by
  have h_lists : d.Lists p := ⟨codec, principal, status, limit, cursor, h_call⟩
  have h_answers : ∀ response, (d.role p).Answers x (d.role p).start response :=
    fun response => ⟨fun _ => rfl, fun h_not => absurd h_lists h_not⟩
  rw [h_call]
  refine ServerDeployment.staged_wrap .listed ?_
  -- the checks and the cursor
  refine staged_admit (fun _ _ => h_answers _) fun userId _ => ?_
  refine staged_answer (fun _ _ => h_answers _) fun after _ => ?_
  -- the query is no call of the deployment: it changes nothing, and ends with a rollback
  rw [callService_bind]
  refine .idle _ _ ?_ fun r => ?_
  · refine Awaits.mono (awaits_unitOfWork (fun w => ⟨h_lists, .inr rfl⟩)
      (awaits_attempt (Q := fun _ => True) fun i w r w' hf => ?_)) (fun _ _ h => h)
      (fun _ _ h => h) fun _ _ => trivial
    obtain ⟨-, rfl⟩ := Prod.mk.inj (Option.some.inj hf)
    exact .inr ⟨⟨h_lists, .inl rfl⟩, fun _ _ => trivial⟩
  · cases r with
    | ok rows => exact ⟨_, rfl, h_answers _⟩
    | error e => exact ⟨_, rfl, h_answers _⟩

theorem background_staged {call : Call}
    {h_worker : call.part ∈ [Part.publisher, .consumer, .worker]}
    (h_call : d.calls p = .background call h_worker)
    (x : Prog Pid Choice QuotaStore (Except PyError Unit)) :
    Staged Server.quotaPart Server.worldPart p (d.role p) x (d.role p).start
      (d.program (d.calls p)) := by
  have h_not := ServerDeployment.not_lists h_call (by simp)
  rw [h_call]
  refine staged_service id ?_ (ServerDeployment.ready_of_ne (by simp [h_call]))
    (fun answer => ?_) fun e => ?_
  · exact (ServerDeployment.role_start h_call).trans
      (bind_pure (call.program d.sha256 : Program Answer)).symm
  · refine ServerDeployment.answers_ret h_not fun _ _ _ => ?_
    rw [h_call]
    rfl
  · refine ServerDeployment.answers_ret h_not fun _ _ _ => ?_
    rw [h_call]
    rfl

theorem program_staged (d : ServerDeployment) (p : Pid) :
    Staged Server.quotaPart Server.worldPart p (d.role p)
      (d.quotaService.consume (d.callers p)) (d.role p).start (d.program (d.calls p)) := by
  cases h_call : d.calls p with
  | createNotification service principal request =>
    have h_caller : d.callers p = principal.subject := congrArg ServerCall.caller h_call
    rw [h_caller, ← h_call]
    exact createNotification_staged h_call
  | retryNotification => exact h_call ▸ retryNotification_staged h_call _
  | listNotifications => exact h_call ▸ listNotifications_staged h_call _
  | markNotificationRead => exact h_call ▸ markNotificationRead_staged h_call _
  | retryNotificationAction => exact h_call ▸ retryNotificationAction_staged h_call _
  | background => exact h_call ▸ background_staged h_call _

end Endpoints

/-! ### What is left open -/

section Closed

variable {p : Pid} {w : QuotaStore} {readings : List Instant}

/-- The transaction ends by its commit or by its rollback. -/
theorem decide_closed {service : ProducerQuotaService} {sourceService : String}
    {now windowStart : Instant} (h : QuotaHolds p readings [] [] w)
    (hS : w.producerQuotas.Serial) :
    quotaContract.Safe p (fun _ w' => w'.producerQuotas.own p = [])
      (do
        let requestCount ← QuotaProgram.unitOfWork do
          let requestCount ← ProducerQuotaRepository.increment sourceService windowStart
          ProducerQuotaRepository.commit
          return requestCount
        QuotaProgram.compute (service.verdict windowStart now requestCount) :
          QuotaProgram Unit) w := by
  refine Contract.Safe.bind quota_discipline hS ?_
  refine (increment_safe sourceService windowStart h).mono fun r w₁ _ h₁ => ?_
  cases r with
  | error e => exact fun w₂ hR₂ _ => (h₁.stable hR₂).own
  | ok count => exact fun w₂ hR₂ _ => (h₁.stable hR₂).own

/-- A call of `consume` that has ended has no open transaction. -/
theorem consume_closed (service : ProducerQuotaService) (sourceService : String)
    (h : QuotaHolds p [] [] [] w) :
    quotaContract.Safe p (fun _ w' => w'.producerQuotas.own p = [])
      (service.consume sourceService) w := by
  refine Contract.Safe.attempt fun w₁ hR₁ hS₁ => ⟨(h.stable hR₁).handed, fun i r w₂ h_read => ?_⟩
  -- the reading of the clock
  cases i with
  | time value =>
    obtain ⟨-, rfl⟩ := Prod.mk.inj (Option.some.inj h_read)
    refine ⟨.read value.instant, ?_⟩
    have h₂ := (h.stable hR₁).read value.instant
    have h_raise : ∀ e, quotaContract.Safe p (fun _ w' => w'.producerQuotas.own p = [])
        (.ret (.error e) : Prog Pid Choice QuotaStore (Except PyError Unit)) _ :=
      fun e w₃ hR₃ _ => (h₂.stable hR₃).own
    -- a call that raises before its transaction has none
    cases r with
    | error e => exact h_raise e
    | ok now =>
      dsimp only
      cases service.windowStart now with
      | error e => exact h_raise e
      | ok windowStart => exact decide_closed h₂ hS₁
  | _ => exact absurd h_read (by simp)

/-- What has ended has nothing to roll back. -/
theorem ProducerQuotaService.Run.closed {service : ProducerQuotaService} {callers : Pid → String}
    {ls : List (Label Pid Choice Empty)} {c : QuotaState} (h : service.Run callers ls c)
    {r : Except PyError Unit} (hp : c.prog p = some (.ret r)) : c.world.rollback p = c.world := by
  -- all calls of a run are verified against this postcondition
  have h_verified : (service.start callers).Verified quotaContract
      fun p _ w => w.producerQuotas.own p = [] := {
    inv := Counters.serial_empty
    safe p m hm := by
      obtain rfl := Option.some.inj hm
      exact consume_closed service (callers p) ⟨rfl, rfl, rfl⟩
    crashed p hp := absurd hp (by simp [ProducerQuotaService.start]) }
  have h_own := (h_verified.run quota_discipline h).result quota_discipline hp
  rw [QuotaStore.rollback, Counters.abort_of_own_nil h_own]

/-- A call that only reads has no open rows and no open fan-out. -/
theorem Deployment.Run.reader_own {d : Deployment} {clock : Instant} {directory : Directory}
    {ls : Schedule} {c : State} (h : d.Run clock directory ls c)
    (h_call : (d.calls p).part = .reader) :
    (c.world.notifications.own p = [] ∧ c.world.recipients.own p = [] ∧
      c.world.deliveries.own p = []) ∧ ∀ x ∈ c.world.fanouts, x.pid ≠ p := by
  -- open fan-outs are those of consumers
  have h_fanouts : ∀ x ∈ c.world.fanouts, x.pid ≠ p := by
    rintro x hx rfl
    exact absurd (h_call.symm.trans (h.schemaRows.consumers x hx)) (by simp)
  have h_none : c.world.fanoutsOf p = [] := List.filter_eq_nil_iff.mpr (by simpa using h_fanouts)
  -- open rows are those of a creation or of an open fan-out
  refine ⟨⟨?_, ?_, ?_⟩, h_fanouts⟩
  · refine List.eq_nil_iff_forall_not_mem.mpr fun n hn => ?_
    exact absurd (h_call.symm.trans (h.openFanouts.requesters p n hn)) (by simp)
  · refine List.eq_nil_iff_forall_not_mem.mpr fun r hr => ?_
    obtain ⟨x, h_open, -⟩ := h.openFanouts.recipients p r hr
    exact absurd (h_none.symm.trans h_open) (by simp)
  · refine List.eq_nil_iff_forall_not_mem.mpr fun r hr => ?_
    obtain ⟨x, h_open, -⟩ := h.openFanouts.deliveries p r hr
    exact absurd (h_none.symm.trans h_open) (by simp)

/-- A call that only reads has nothing to roll back. -/
theorem Deployment.Run.rollback_reader {d : Deployment} {clock : Instant} {directory : Directory}
    {ls : Schedule} {c : State} (h : d.Run clock directory ls c)
    (h_call : (d.calls p).part = .reader) : c.world.rollback p = c.world := by
  obtain ⟨⟨h_notifications, h_recipients, h_deliveries⟩, h_fanouts⟩ := h.reader_own h_call
  have h_filter : c.world.fanouts.filter (fun f => f.pid ≠ p) = c.world.fanouts :=
    List.filter_eq_self.mpr (by simpa using h_fanouts)
  rw [World.rollback, Table.abort_of_own_nil h_notifications, Table.abort_of_own_nil h_recipients,
    Table.abort_of_own_nil h_deliveries, h_filter]

end Closed

/-! ### Whole runs -/

/-- Every call of the deployment has something to do. -/
theorem Call.program_busy (sha256 : String → String) (call : Call) :
    Busy (call.program sha256 : Prog Pid Choice World Outcome) := by
  cases call <;> trivial

theorem server_composed :
    serverMachine.Composed Server.quotaPart Server.worldPart quotaMachine surroundings where
  independent := ⟨fun _ _ => rfl, fun _ _ => rfl⟩
  env {e s s'} h := by
    obtain ⟨w, h_move, rfl⟩ := Option.map_eq_some_iff.mp h
    exact ⟨rfl, h_move⟩
  abort_first _ _ := rfl
  abort_second _ _ := rfl

/-- Beside the calls of the deployment, a list is one that only reads. -/
theorem ServerDeployment.Lists.reader {d : ServerDeployment} {p : Pid} (h : d.Lists p) :
    (d.deployment.calls p).part = .reader := by
  obtain ⟨codec, principal, status, limit, cursor, h_call⟩ := h
  show (d.calls p).call.part = .reader
  rw [h_call]
  rfl

section Runs

variable {d : ServerDeployment} {clock : Instant} {directory : Directory} {ls : Schedule}
  {c : ServerState}

theorem ServerDeployment.Run.simulates (h : d.Run clock directory ls c) :
    ∃ lsQ lsW cQ cW, d.quotaService.Run d.callers lsQ cQ ∧ d.deployment.Run clock directory lsW cW ∧
      Simulates Server.quotaPart Server.worldPart d.role c cQ cW := by
  -- no process has taken a step
  have h_start : Simulates Server.quotaPart Server.worldPart d.role (d.start clock directory)
      (d.quotaService.start d.callers) (d.deployment.start clock directory) := by
    refine ⟨rfl, rfl, fun p m hm => ?_, fun p hp => absurd hp (by simp [ServerDeployment.start])⟩
    obtain rfl := Option.some.inj hm
    exact ⟨_, _, rfl, rfl, program_staged d p⟩
  -- what has ended has nothing open, and lists neither
  refine h_start.run server_composed (fun p => (d.deployment.calls p).program_busy d.sha256)
    (fun lsQ cQ p r h_quotas hp => ProducerQuotaService.Run.closed h_quotas hp)
    (fun lsW cW p w h_world h_idle => ?_) h
  obtain ⟨h_lists, rfl | rfl⟩ := h_idle
  · rfl
  · exact Deployment.Run.rollback_reader h_world h_lists.reader

theorem ServerDeployment.Run.sound (h : d.Run clock directory ls c) : Sound c.world.world := by
  obtain ⟨lsQ, lsW, cQ, cW, -, h_world, h_sim⟩ := h.simulates
  have h_second : cW.world = c.world.world := h_sim.second
  exact h_second ▸ Deployment.Run.sound h_world

/-- The service of a creation has only been called if `consume` has returned. -/
theorem ServerDeployment.started {cQ : QuotaState} {cW : State}
    (h : Simulates Server.quotaPart Server.worldPart d.role c cQ cW) {p : Pid}
    {service : NotificationCreationService} {principal : AuthenticatedPrincipal}
    {request : CreateNotificationRequest}
    (h_call : d.calls p = .createNotification service principal request)
    {y : Prog Pid Choice World Outcome} (hp : cW.prog p = some y)
    (h_ne : y ≠ (d.deployment.calls p).program d.sha256) : cQ.outcome p = some (.ok ()) := by
  -- a process that has died has no service left
  cases hm : c.prog p with
  | none => exact absurd ((h.crashed p hm).symm.trans hp) (by simp)
  | some m =>
    -- the service has only been called with the quota granted
    obtain ⟨x, y', hx, hy, h_staged⟩ := h.prog p m hm
    obtain rfl := Option.some.inj (hy.symm.trans hp)
    rcases h_staged.ready with h_start | h_ready
    · exact absurd h_start h_ne
    · rw [QuotaState.outcome_eq, hx, h_ready service principal request h_call]

/-- A service that has ended has been called. -/
theorem ServerDeployment.admitted {cQ : QuotaState} {cW : State}
    (h : Simulates Server.quotaPart Server.worldPart d.role c cQ cW) {p : Pid}
    {service : NotificationCreationService} {principal : AuthenticatedPrincipal}
    {request : CreateNotificationRequest}
    (h_call : d.calls p = .createNotification service principal request) {outcome : Outcome}
    (hp : cW.prog p = some (.ret outcome)) : cQ.outcome p = some (.ok ()) := by
  refine ServerDeployment.started h h_call hp fun h_start => ?_
  have h_busy := (d.deployment.calls p).program_busy d.sha256
  exact (h_start ▸ h_busy : Busy (.ret outcome : Prog Pid Choice World Outcome))

/-- What goes on with no result has none. -/
theorem bind_ne_ok {ε α β : Type} {r : Except ε α} {f : α → Except ε β} {b : β}
    (h : ∀ a, f a ≠ .ok b) : (r >>= f) ≠ .ok b := by
  cases r with
  | error e => simp [Bind.bind, Except.bind]
  | ok a => exact h a

/-- A creation is not accepted without its service. -/
theorem ServerDeployment.Answers.creation_called {p : Pid}
    {x : Prog Pid Choice QuotaStore (Except PyError Unit)} {y : Prog Pid Choice World Outcome}
    {w : World} {response : ServerAnswer} (h : d.Answers p x y w (.ok response))
    {service : NotificationCreationService} {principal : AuthenticatedPrincipal}
    {request : CreateNotificationRequest}
    (h_call : d.calls p = .createNotification service principal request) :
    y ≠ (d.deployment.calls p).program d.sha256 := by
  intro h_start
  -- the condition on results can be met: whatever the quota service has answered so far
  obtain ⟨admission, hx⟩ : ∃ admission, ∀ a, x = .ret a → a = admission := by
    cases x with
    | ret a => exact ⟨a, fun a' h_a => (Prog.ret.inj h_a).symm⟩
    | act f k => exact ⟨.ok (), fun a h_a => absurd h_a (by simp)⟩
  -- and the service has no result, as it is not called
  have hy : ∀ r, y = .ret r → r = .error (.external "") := fun r h_r => by
    have h_busy := (d.deployment.calls p).program_busy d.sha256
    exact (h_start.symm.trans h_r ▸ h_busy : Busy (.ret r : Prog Pid Choice World Outcome)).elim
  -- a service that raises would be answered in the same way
  have h_same := h.2 admission (.error (.external "")) hx hy
  rw [h_call] at h_same
  refine absurd h_same.symm ?_
  show d.answer _ _ _ _ ≠ .ok (some response)
  unfold ServerDeployment.answer
  exact bind_ne_ok fun _ => bind_ne_ok fun _ => bind_ne_ok fun _ => bind_ne_ok fun _ => nofun

/-- A list is refused by a check, or its program is its query and then the response. -/
theorem ServerDeployment.list_cases (d : ServerDeployment) (codec : WebNotificationCursorCodec)
    (principal : AuthenticatedPrincipal) (status : WebNotificationStatus) (limit : ℕ)
    (cursor : Option String) :
    (∃ e, d.program (.listNotifications codec principal status limit cursor) =
        ExceptT.mk (.ret (.error e)) ∧
      ∀ w admission result, d.answer w admission result
        (.listNotifications codec principal status limit cursor) = .error e) ∨
    ∃ userId after, d.program (.listNotifications codec principal status limit cursor) = (do
        let response ← (do
          let rows ← callService Server.worldPart .raised
            (WebNotificationService.listForUser userId status (limit + 1) after)
          return ⟨200, UserRoutes.listResponse
            (UserRoutes.pageOfRows d.hmacSha256 codec limit rows)⟩ :
              ApiProgram (EndpointResponse WebNotificationListResponse))
        return .listed response : ApiProgram ServerAnswer) ∧
      ∀ w admission result, d.answer w admission result
        (.listNotifications codec principal status limit cursor) =
          match listWebNotificationsForUser w.deliveries.committed w.notifications.committed userId
            status (limit + 1) after with
          | .ok rows => .ok (some (.listed ⟨200, UserRoutes.listResponse
              (UserRoutes.pageOfRows d.hmacSha256 codec limit rows)⟩))
          | .error e => .error (.raised e) := by
  dsimp only [ServerDeployment.program, ServerDeployment.answer, UserRoutes.listNotifications,
    UserRoutes.admit, UserRoutes.page]
  -- one after the other the checks of the principal, its subject and the cursor
  cases principal.requireType "user" with
  | error e => exact .inl ⟨_, rfl, fun _ _ _ => rfl⟩
  | ok _ =>
    cases principal.requireScope "notifications:read" with
    | error e => exact .inl ⟨_, rfl, fun _ _ _ => rfl⟩
    | ok _ =>
      cases UserRoutes.userIdFromPrincipal principal with
      | error e => exact .inl ⟨_, rfl, fun _ _ _ => rfl⟩
      | ok userId =>
        cases UserRoutes.decodeCursor d.hmacSha256 d.floatOf codec cursor with
        | error e => exact .inl ⟨_, rfl, fun _ _ _ => rfl⟩
        | ok after =>
          refine .inr ⟨userId, after, rfl, fun w _ _ => ?_⟩
          cases h_rows : listWebNotificationsForUser w.deliveries.committed
            w.notifications.committed userId status (limit + 1) after with
          | error e => simp only [h_rows, Bind.bind, Except.bind, Except.mapError]
          | ok rows => simp only [h_rows, Bind.bind, Except.bind, Except.mapError]; rfl

/-- **A list is answered by a page of a state of the run**, the one that its query has read. -/
theorem ServerDeployment.Run.listed (h : d.Run clock directory ls c) {p : Pid}
    (h_lists : d.Lists p) {response : Except EndpointError ServerAnswer}
    (h_ret : c.prog p = some (.ret response)) :
    ∃ ls₀ c₀, ls₀ <+: ls ∧ d.Run clock directory ls₀ c₀ ∧ ∀ admission result,
      response.map some = d.answer c₀.world.world admission result (d.calls p) := by
  have h_reader := h_lists.reader
  obtain ⟨codec, principal, status, limit, cursor, h_call⟩ := h_lists
  have h_start : (d.start clock directory).prog p =
      some (d.program (.listNotifications codec principal status limit cursor)) :=
    congrArg (fun call => some (d.program call)) h_call
  rw [h_call]
  rcases d.list_cases codec principal status limit cursor with ⟨e, h_program, h_answer⟩ |
    ⟨userId, after, h_program, h_answer⟩
  · -- refused
    rw [h_program] at h_start
    obtain rfl := Prog.ret.inj (Option.some.inj ((Machine.run_ret h h_start).symm.trans h_ret))
    exact ⟨ls, c, List.prefix_rfl, h, fun admission result => (h_answer _ admission result).symm⟩
  · rw [h_program] at h_start
    -- the query
    obtain ⟨ls₀, i, ls₁, c₀, c₁, r, rfl, h₀, hf, hp, h_step, h_rest⟩ :=
      Machine.run_act h h_start h_ret
    obtain ⟨⟨found, w⟩, h_found, h_eq⟩ := Option.map_eq_some_iff.mp hf
    obtain ⟨rfl, -⟩ := Prod.mk.inj h_eq
    obtain ⟨h_rows, -⟩ := Prod.mk.inj (Option.some.inj h_found)
    -- it has seen the committed rows, since the process has none of its own
    obtain ⟨lsQ, lsW, cQ, cW, -, h_world, h_sim⟩ := ServerDeployment.Run.simulates h₀
    have h_second : cW.world = c₀.world.world := h_sim.second
    obtain ⟨⟨h_notifications, -, h_deliveries⟩, -⟩ := h_world.reader_own h_reader
    rw [h_second] at h_notifications h_deliveries
    have h_query : listWebNotificationsForUser c₀.world.world.deliveries.committed
        c₀.world.world.notifications.committed userId status (limit + 1) after = found := by
      rw [← Table.visible_of_own_nil h_deliveries, ← Table.visible_of_own_nil h_notifications]
      exact h_rows
    refine ⟨ls₀, c₀, List.prefix_append _ _, h₀, fun admission result => ?_⟩
    rw [h_answer, h_query]
    -- the response
    cases found with
    | ok rows =>
      obtain rfl := Prog.ret.inj (Option.some.inj ((Machine.run_ret h_rest hp).symm.trans h_ret))
      rfl
    | error e =>
      obtain ⟨_, _, _, _, c₂, _, -, -, -, hp₂, -, h_rest₂⟩ := Machine.run_act h_rest hp h_ret
      obtain rfl := Prog.ret.inj (Option.some.inj ((Machine.run_ret h_rest₂ hp₂).symm.trans h_ret))
      rfl

/-- **The server refines its services.** Every run of the server is a run of `consume` calls on
the quotas and a run of service calls on the world. A request that has been answered is answered
as its endpoint does for the results of `consume` and of its service, of those that have been
called, and a list by the page of a state of the run; a request whose process has died has no
service left running; and the service of a creation is called only when its `consume` has
returned. -/
theorem server_refines (h : d.Run clock directory ls c) :
    ∃ lsQ lsW cQ cW, d.quotaService.Run d.callers lsQ cQ ∧ d.deployment.Run clock directory lsW cW ∧
      c.world = ⟨cW.world, cQ.world⟩ ∧
      (∀ p response, c.prog p = some (.ret response) → ∃ x y ls₀ c₀, cQ.prog p = some x ∧
        cW.prog p = some y ∧ ls₀ <+: ls ∧ d.Run clock directory ls₀ c₀ ∧
        d.Answers p x y c₀.world.world response) ∧
      (∀ p, c.prog p = none → cW.prog p = none) ∧
      ∀ p service principal request, d.calls p = .createNotification service principal request →
        ∀ y, cW.prog p = some y → y ≠ (d.deployment.calls p).program d.sha256 →
          cQ.outcome p = some (.ok ()) := by
  obtain ⟨lsQ, lsW, cQ, cW, h_quotas, h_world, h_sim⟩ := h.simulates
  refine ⟨lsQ, lsW, cQ, cW, h_quotas, h_world, ?_, fun p response hp => ?_, h_sim.crashed,
    fun p service principal request h_call y hp h_ne =>
      ServerDeployment.started h_sim h_call hp h_ne⟩
  · rw [h_sim.first, h_sim.second]
    rfl
  · -- the answer is that of the stage the request has ended in
    obtain ⟨x, y, hx, hy, h_staged⟩ := h_sim.prog p _ hp
    obtain ⟨h_start, h_service⟩ := h_staged.answers
    by_cases h_lists : d.Lists p
    · obtain ⟨ls₀, c₀, h_prefix, h₀, h_page⟩ := h.listed h_lists hp
      exact ⟨x, y, ls₀, c₀, hx, hy, h_prefix, h₀, .inl (h_start h_lists),
        fun admission result _ _ => h_page admission result⟩
    · exact ⟨x, y, ls, c, hx, hy, List.prefix_rfl, h, h_service h_lists _⟩

/-! ### Quotas on notifications -/

/-- The notifications of a source service whose creation has been counted in a window. -/
def Server.createdIn (s : Server) (sourceService : String) (windowStart : Instant) :
    List Notification :=
  s.world.notifications.committed.filter fun n => decide (n.sourceService = sourceService ∧
    ∃ p ∈ s.quotas.committedCalls sourceService windowStart, (n.id, p) ∈ s.world.issued)

/-- Only a creation's service creates. -/
theorem ServerCall.of_creation {call : ServerCall} (h : call.call.part = .creation) :
    ∃ service principal request, call = .createNotification service principal request := by
  cases call with
  | createNotification service principal request => exact ⟨service, principal, request, rfl⟩
  | retryNotification | listNotifications => exact absurd h (by simp [ServerCall.call, Call.part])
  | markNotificationRead principal | retryNotificationAction principal =>
    -- without a user these read only, and with one they are no creations either
    unfold ServerCall.call at h
    cases h_user : UUID.parse principal.subject with
    | none => simp [h_user, Call.part] at h
    | some userId => simp [h_user, Call.part] at h
  | background call h_worker =>
    have h_part : call.part = .creation := h
    simp [h_part] at h_worker

theorem ServerCall.sourceService {call : ServerCall} {service : NotificationCreationService}
    {sourceService : String} {input : NotificationCreationInput} {key : Option String}
    (h : call.call = .createNotification service sourceService input key) :
    call.caller = sourceService := by
  obtain ⟨service, principal, request, rfl⟩ := ServerCall.of_creation (congrArg Call.part h)
  unfold ServerCall.call at h
  cases h_domain : request.toDomain with
  | error e => simp [h_domain] at h
  | ok input =>
    simp only [h_domain, Call.createNotification.injEq] at h
    exact h.2.1

/-- A call that returns has been counted in the window of its reading. -/
theorem QuotaPost.counted {service : ProducerQuotaService} {callers : Pid → String}
    {lsQ : List (Label Pid Choice Empty)} {cQ : QuotaState} (h : service.Run callers lsQ cQ)
    {p : Pid} (h_outcome : cQ.outcome p = some (.ok ())) :
    ∃ now windowStart, cQ.world.readingsOf p = [now] ∧ service.windowStart now = .ok windowStart ∧
      p ∈ cQ.world.committedCalls (callers p) windowStart := by
  rcases ((quota_verified service callers).run quota_discipline h).result quota_discipline
    (QuotaState.outcome_eq.mp h_outcome) with ⟨h_not, -⟩ | ⟨now, start, count, h_read, h_start,
      h_handed, -⟩
  · exact absurd rfl h_not
  · -- the call has been handed its count by the commit
    have h_mem := Counters.mem_handedTo.mp (h_handed ▸ List.mem_singleton_self _)
    exact ⟨now, start, h_read, h_start,
      List.mem_map.mpr ⟨_, List.mem_filter.mpr ⟨h_mem.1, by simp⟩, rfl⟩⟩

/-- The creator of a notification has passed the quota of its source service. -/
theorem ServerDeployment.Run.admitted (h : d.Run clock directory ls c) :
    ∃ lsQ cQ, d.quotaService.Run d.callers lsQ cQ ∧ cQ.world = c.world.quotas ∧
      (∀ n ∈ c.world.world.notifications.committed, ∃ q, (n.id, q) ∈ c.world.world.issued ∧
        d.callers q = n.sourceService ∧ cQ.outcome q = some (.ok ())) ∧
      ∀ n ∈ c.world.world.notifications.committed, ∀ n' ∈ c.world.world.notifications.committed,
        ∀ q, (n.id, q) ∈ c.world.world.issued → (n'.id, q) ∈ c.world.world.issued → n = n' := by
  obtain ⟨lsQ, lsW, cQ, cW, h_quotas, h_world, h_sim⟩ := h.simulates
  have h_second : cW.world = c.world.world := h_sim.second
  refine ⟨lsQ, cQ, h_quotas, h_sim.first, ?_⟩
  rw [← h_second]
  refine ⟨fun n hn => ?_, fun n hn n' hn' q h_issued h_issued' => ?_⟩
  · -- its creator has called the service, for its caller's source, and so the quota was granted
    obtain ⟨q, row, h_issued, ⟨service, source, input, key, value, identity, h_call, -, -, h_row⟩,
      h_same⟩ := h_world.created.rows n (Table.mem_rows_of_committed hn)
    have h_source : n.sourceService = source := by
      have h_request : n.request = row.request := h_same
      have h_service : n.sourceService = row.sourceService :=
        (congrArg Notification.sourceService h_request :)
      rw [h_service, h_row]
      rfl
    obtain ⟨service', principal, request, h_server⟩ :=
      ServerCall.of_creation (congrArg Call.part h_call)
    obtain ⟨r, -, -, h_returned, -⟩ := h_world.returned hn h_issued (congrArg Call.part h_call)
    refine ⟨q, h_issued, (ServerCall.sourceService h_call).trans h_source.symm, ?_⟩
    exact ServerDeployment.admitted h_sim h_server h_returned
  · -- the two rows have the identity of their creator
    have h_creator : ∀ m ∈ cW.world.notifications.committed, (m.id, q) ∈ cW.world.issued →
        ∃ identity fingerprint, d.deployment.Identifies q cW.world identity fingerprint ∧
          identity.Matches m := by
      intro m hm h_m
      obtain ⟨q', r, identity, fingerprint, h_q', -, -, h_id, h_match⟩ := h_world.creator hm
      obtain rfl := h_world.sound.owner_unique h_q' h_m
      exact ⟨identity, fingerprint, h_id, h_match⟩
    obtain ⟨identity, fingerprint, h_id, h_match⟩ := h_creator n hn h_issued
    obtain ⟨identity', fingerprint', h_id', h_match'⟩ := h_creator n' hn' h_issued'
    obtain ⟨rfl, -⟩ := h_id.unique h_id'
    exact h_world.sound.identity_unique hn hn' h_match h_match'

/-- **The quota limits the notifications.** In every state of every run of the server, each
committed notification has been counted in the window that its request's clock reading falls
into, and no source service has more notifications counted in a window than the limit. -/
theorem notifications_limited (h : d.Run clock directory ls c) :
    (∀ n ∈ c.world.world.notifications.committed, ∃ p now windowStart,
      (n.id, p) ∈ c.world.world.issued ∧ c.world.quotas.readingsOf p = [now] ∧
      d.quotaService.windowStart now = .ok windowStart ∧
      n ∈ c.world.createdIn n.sourceService windowStart) ∧
    ∀ sourceService windowStart,
      ((c.world.createdIn sourceService windowStart).length : ℤ) ≤ d.quotaService.limit := by
  obtain ⟨lsQ, cQ, h_quotas, h_store, h_admitted, h_one⟩ := h.admitted
  refine ⟨fun n hn => ?_, fun sourceService windowStart => ?_⟩
  · -- the creator has been counted at its reading
    obtain ⟨q, h_issued, h_source, h_outcome⟩ := h_admitted n hn
    obtain ⟨now, windowStart, h_read, h_start, h_counted⟩ := QuotaPost.counted h_quotas h_outcome
    rw [h_store, h_source] at h_counted
    exact ⟨q, now, windowStart, h_issued, h_store ▸ h_read, h_start,
      List.mem_filter.mpr ⟨hn, by simpa using ⟨q, h_counted, h_issued⟩⟩⟩
  · -- a notification goes to its creator, which has been counted and admitted
    have h_creator : ∀ n, ∃ q, n ∈ c.world.createdIn sourceService windowStart →
        (n.id, q) ∈ c.world.world.issued ∧
        q ∈ (cQ.world.committedCalls sourceService windowStart).filter
          (cQ.outcome · = some (.ok ())) := by
      intro n
      by_cases hn : n ∈ c.world.createdIn sourceService windowStart
      · obtain ⟨h_mem, h_counted⟩ := List.mem_filter.mp hn
        obtain ⟨h_source, q, h_q, h_issued⟩ := of_decide_eq_true h_counted
        obtain ⟨q', h_issued', -, h_outcome⟩ := h_admitted n h_mem
        obtain rfl := h.sound.owner_unique h_issued h_issued'
        exact ⟨q, fun _ => ⟨h_issued, List.mem_filter.mpr
          ⟨h_store ▸ h_q, decide_eq_true h_outcome⟩⟩⟩
      · exact ⟨0, fun h_not => absurd h_not hn⟩
    -- different notifications have different creators
    choose creator h_creator using h_creator
    have h_nodup : ((c.world.createdIn sourceService windowStart).map creator).Nodup := by
      refine List.Nodup.map_on (fun n hn n' hn' h_same => ?_) ?_
      · exact h_one n (List.mem_of_mem_filter hn) n' (List.mem_of_mem_filter hn') (creator n)
          (h_creator n hn).1 (h_same ▸ (h_creator n' hn').1)
      · exact List.Nodup.of_map Notification.id (h.sound.notifications.nodup.sublist
          ((List.sublist_append_left _ _).map _)) |>.filter _
    -- so there are no more notifications than calls admitted, whose number is exact
    have h_length := (List.subperm_of_subset h_nodup fun q hq => by
      obtain ⟨n, hn, rfl⟩ := List.mem_map.mp hq
      exact (h_creator n hn).2).length_le
    rw [List.length_map, ← List.countP_eq_length_filter] at h_length
    have h_exact : (((cQ.world.committedCalls sourceService windowStart).countP
        (cQ.outcome · = some (.ok ())) : ℕ) : ℤ) =
        min ((cQ.world.committedCalls sourceService windowStart).length : ℤ)
          d.quotaService.limit := countP_returns h_quotas
    omega

/-- A schedule whose steps are all enabled is a run. -/
theorem ServerDeployment.exists_run (d : ServerDeployment) (clock : Instant)
    (directory : Directory) (ls : Schedule) (f : ServerState → Bool)
    (h : (serverMachine.run (d.start clock directory) ls).map f = some true) :
    ∃ c, d.Run clock directory ls c ∧ f c = true :=
  Option.map_eq_some_iff.mp h

end Runs

theorem check_all : AudienceSelector.check "all" none none = .ok () := by decide +kernel

theorem check_hello : CreateNotificationRequest.check "hello" [.web] none = .ok () := by
  decide +kernel

/-- A request to everyone. -/
def helloRequest : CreateNotificationRequest where
  message := "hello"
  severity := .info
  audience := { type := "all", group := none, labels := none, valid := check_all }
  channels := [.web]
  idempotencyKey := none
  valid := check_hello

/-- The principal of a service. -/
def ordersPrincipal : AuthenticatedPrincipal := ⟨"orders", "service", ["notifications:write"]⟩

/-- Two requests of a service that may make one in a minute, a consumer, and a user's list. -/
def limitedServer : ServerDeployment where
  sha256 := id
  hmacSha256 _ _ := []
  floatOf _ := .nan
  quotaService := oneRequest 60 (by decide)
  calls
    | 0 | 1 => .createNotification ⟨3600000000⟩ ordersPrincipal helloRequest
    | 2 => .background (.consume {} "consumer" (.requested 11 10)) (by decide)
    | _ => .listNotifications ⟨"secret"⟩ ⟨UUID.str 1, "user", ["notifications:read"]⟩ .all 10 none

/-- The second request is counted after the first, and refused. -/
def limitedSchedule : Schedule := [
  .run 0 (.time (.ofInstant 0)), .run 1 (.time (.ofInstant 1)), .run 0 .go, .run 0 .go,
  .run 1 .go, .run 1 .go,
  .run 0 (.time (.ofInstant 2)), .run 0 .go, .run 0 (.fresh 10), .run 0 (.fresh 11),
  .run 3 .go]

/-- The notification that is accepted has passed the quota. -/
theorem server_refines_limited :
    ∃ c, limitedServer.Run 0 (.ofUsers [1] (by decide)) limitedSchedule c ∧
      c.returned 0 = some (.ok (.created ⟨202, ⟨10, "accepted", 0, 0, false⟩⟩)) ∧
      c.returned 1 =
        some (.error (.limited ⟨429, "producer request quota exceeded"⟩ (toString 60))) ∧
      ∃ lsQ cQ, limitedServer.quotaService.Run limitedServer.callers lsQ cQ ∧
        cQ.outcome 0 = some (.ok ()) := by
  obtain ⟨c, h_run, h_c⟩ := limitedServer.exists_run 0 (.ofUsers [1] (by decide)) limitedSchedule
    (fun c => decide (
      c.returned 0 = some (.ok (.created ⟨202, ⟨10, "accepted", 0, 0, false⟩⟩)) ∧
      c.returned 1 =
        some (.error (.limited ⟨429, "producer request quota exceeded"⟩ (toString 60)))))
    (by decide +kernel)
  obtain ⟨h_created, h_limited⟩ := of_decide_eq_true h_c
  -- an acceptance is an answer of the service, which has then been called
  obtain ⟨lsQ, lsW, cQ, cW, h_quotas, -, -, h_answers, -, h_started⟩ := server_refines h_run
  obtain ⟨x, y, ls₀, c₀, -, hy, -, -, h_answer⟩ :=
    h_answers 0 _ (Config.returned_eq.mp h_created)
  exact ⟨c, h_run, h_created, h_limited, lsQ, cQ, h_quotas,
    h_started 0 _ _ _ rfl y hy (h_answer.creation_called rfl)⟩

/-- The limit is reached. -/
theorem notifications_limited_reached :
    ∃ c, limitedServer.Run 0 (.ofUsers [1] (by decide)) limitedSchedule c ∧
      (c.world.createdIn "orders" 0).map Notification.id = [10] ∧
      c.world.quotas.committedCalls "orders" 0 = [0, 1] ∧
      ∀ sourceService windowStart,
        ((c.world.createdIn sourceService windowStart).length : ℤ) ≤ 1 := by
  obtain ⟨c, h_run, h_c⟩ := limitedServer.exists_run 0 (.ofUsers [1] (by decide)) limitedSchedule
    (fun c => decide ((c.world.createdIn "orders" 0).map Notification.id = [10] ∧
      c.world.quotas.committedCalls "orders" 0 = [0, 1])) (by decide +kernel)
  obtain ⟨h_ids, h_calls⟩ := of_decide_eq_true h_c
  exact ⟨c, h_run, h_ids, h_calls, (notifications_limited h_run).2⟩

end NotificationBroker
