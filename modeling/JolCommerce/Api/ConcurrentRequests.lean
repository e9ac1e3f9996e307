import JolCommerce.Api.OrderServer
import JolCommerce.Run.Frame
import JolCommerce.Run.Purge
import JolCommerce.Tenancy.Middleware

/-!
Requests in flight at the same time: the turns of their tasks, in any order.

Every task has a context of its own, and the application's task starts with a copy of the middleware's.
-/

namespace JolCommerce

open Python RoutesOrder TenantResolutionMiddleware

/-- An HTTP request to the order API. -/
structure HttpRequest where
  hostname : Option String
  header : String → Option String
  route : OrderRoute

/-- What the middleware reads of it. -/
def HttpRequest.received (request : HttpRequest) : Request :=
  ⟨request.route.path, request.hostname, request.header⟩

/-- What a client is answered, or what was raised in its place. -/
abbrev HttpReply := Except PyError (Reply OrderResponse)

/-- How far a request has been served. -/
inductive Progress where
  | received
  /-- The middleware waits for the application, whose task has copied the context. -/
  | forwarded (copied : Option TenantContext)
  /-- The route has returned or raised, which the middleware has yet to pass on. -/
  | handled (answer : Except PyError OrderResponse)
  | closed (reply : HttpReply)

/-- The task of a request. -/
structure RequestTask where
  request : HttpRequest
  /-- `_current_tenant` in the context of the middleware. -/
  tenant : Option TenantContext
  progress : Progress

/-- The tasks of the server, and the objects they share. -/
structure AppServer where
  world : World
  tasks : Nat → Option RequestTask

namespace AppServer

/-- A server that has received nothing yet. -/
def new (world : World) : AppServer := ⟨world, fun _ => none⟩

/-- One task replaced. -/
def put (server : AppServer) (id : Nat) (task : RequestTask) : AppServer :=
  { server with tasks := Function.update server.tasks id (some task) }

end AppServer

/-- What the event loop runs between two points at which a task waits. -/
inductive Turn where
  | receive (id : Nat) (request : HttpRequest)
  | dispatch (id : Nat)
  | handle (id : Nat)
  | finish (id : Nat)

/-- A request that was served, with the task that served it and its reply. -/
structure Served where
  id : Nat
  request : HttpRequest
  reply : HttpReply

section Turns

variable (registry : TenantRegistry) (service : OrderService)

/-- `dispatch(request, call_next)` up to the point where it waits for `call_next`. -/
def RequestTask.dispatched (task : RequestTask) : RequestTask :=
  if exempt task.request.received then { task with progress := .forwarded task.tenant }
  else match resolve registry task.request.received with
  | .error (.tenantNotFound message) =>
    { task with progress := .closed (.ok (.refused 400 message)) }
  | .error error => { task with progress := .closed (.error error) }
  | .ok context => { task with tenant := some context, progress := .forwarded (some context) }

/-- The rest of `dispatch`, once `call_next` has returned or raised. -/
def RequestTask.finished (task : RequestTask) (answer : Except PyError OrderResponse) :
    RequestTask :=
  -- The tenant is unbound in the end, unless the path was exempt.
  { task with
    tenant := if exempt task.request.received then task.tenant else none
    progress := .closed (answer.map .answered) }

/-- The server after a turn; a turn that its task is not ready for does nothing. -/
def AppServer.turn (server : AppServer) : Turn → AppServer
  | .receive id request =>
    match server.tasks id with
    | none => server.put id ⟨request, none, .received⟩
    | some _ => server
  | .dispatch id =>
    match server.tasks id with
    | none => server
    | some task => match task.progress with
      | .received => server.put id (task.dispatched registry)
      | _ => server
  | .handle id =>
    match server.tasks id with
    | none => server
    | some task => match task.progress with
      | .forwarded copied =>
        -- The route runs to its end without waiting, in the context that was copied.
        let code := task.request.route.handler service copied
        { server with world := stateAfter code server.world }.put id
          { task with progress := .handled (resultOf code server.world) }
      | _ => server
  | .finish id =>
    match server.tasks id with
    | none => server
    | some task => match task.progress with
      | .handled answer => server.put id (task.finished answer)
      | _ => server

/-- The request that a turn serves: it is refused, or its route runs. -/
def AppServer.serves (server : AppServer) : Turn → List Served
  | .receive _ _ => []
  | .dispatch id =>
    match server.tasks id with
    | none => []
    | some task => match task.progress, (task.dispatched registry).progress with
      | .received, .closed reply => [⟨id, task.request, reply⟩]
      | _, _ => []
  | .handle id =>
    match server.tasks id with
    | none => []
    | some task => match task.progress with
      | .forwarded copied => [⟨id, task.request,
          (resultOf (task.request.route.handler service copied) server.world).map .answered⟩]
      | _ => []
  | .finish _ => []

/-- The server after a run. -/
def AppServer.run (server : AppServer) (turns : List Turn) : AppServer :=
  turns.foldl (AppServer.turn registry service) server

/-- The requests that a run serves, in order. -/
def AppServer.log (server : AppServer) : List Turn → List Served
  | [] => []
  | turn :: rest =>
    server.serves registry service turn ++ (server.turn registry service turn).log rest

/-- The application behind the middleware: the route, in the tenant that is bound. -/
def application (route : OrderRoute) :
    EStateM PyError (Option TenantContext × World) OrderResponse := do
  let state ← get
  Run.zoom Prod.snd (fun state world => (state.1, world)) (route.handler service state.1)

/-- A request served without interruption: the middleware around the application. -/
def serveAlone (request : HttpRequest) :
    EStateM PyError (Option TenantContext × World) (Reply OrderResponse) :=
  dispatch registry (fun _ => application service request.route) request.received

/-- The reply to a request that is served alone, with no tenant bound before. -/
def serialReply (world : World) (request : HttpRequest) : HttpReply :=
  resultOf (serveAlone registry service request) (none, world)

/-- The world after it. -/
def serialWorld (world : World) (request : HttpRequest) : World :=
  (stateAfter (serveAlone registry service request) (none, world)).2

end Turns

/-- No path of the order API is exempt. -/
theorem route_guarded (request : HttpRequest) : exempt request.received = false := by
  -- All paths start with the prefix of the router, and that starts none of the exempt ways.
  have starts : ∃ rest, request.route.path.toList = OrderRoute.routerPrefix.toList ++ rest := by
    cases request.route <;>
      simp only [OrderRoute.path, String.toList_append, List.append_assoc] <;> exact ⟨_, rfl⟩
  obtain ⟨rest, path⟩ := starts
  unfold exempt HttpRequest.received
  rw [path]
  rfl

section Serial

variable {registry : TenantRegistry} (service : OrderService) {request : HttpRequest} (world : World)

/-- A request that is not resolved is refused alone, too. -/
theorem serveAlone_refused {message : String}
    (refused : resolve registry request.received = .error (.tenantNotFound message)) :
    (serveAlone registry service request).run (none, world) =
      .ok (.refused 400 message) (none, world) := by
  simp [serveAlone, dispatch, route_guarded, refused]

/-- A request that is resolved runs its route in its own tenant, which is unbound in the end. -/
theorem serveAlone_resolved {context : TenantContext}
    (resolved : resolve registry request.received = .ok context) :
    (serveAlone registry service request).run (none, world) =
      match (request.route.handler service (some context)).run world with
      | .ok response after => .ok (.answered response) (none, after)
      | .error error after => .error error (none, after) := by
  simp only [serveAlone, dispatch, route_guarded, resolved, Bool.false_eq_true, if_false,
    EStateM.run_bind, EStateM.run_modify, run_tryFinally, application, EStateM.run_get]
  -- The route works on the world and leaves the bound tenant alone.
  cases ran : (request.route.handler service (some context)).run world with
  | ok response after => rw [Run.run_zoom_ok ran]
  | error error after => rw [Run.run_zoom_error ran]

/-- The reply is what the route returned or raised. -/
theorem serialReply_resolved {context : TenantContext}
    (resolved : resolve registry request.received = .ok context) :
    serialReply registry service world request =
      (resultOf (request.route.handler service (some context)) world).map .answered := by
  unfold serialReply resultOf
  rw [serveAlone_resolved service world resolved]
  cases (request.route.handler service (some context)).run world with
  | ok response after => rfl
  | error error after => rfl

/-- What is left is what the route left. -/
theorem serialWorld_resolved {context : TenantContext}
    (resolved : resolve registry request.received = .ok context) :
    serialWorld registry service world request =
      stateAfter (request.route.handler service (some context)) world := by
  unfold serialWorld stateAfter
  rw [serveAlone_resolved service world resolved]
  cases (request.route.handler service (some context)).run world with
  | ok response after => rfl
  | error error after => rfl

end Serial

/-- Where a task stands: the tenant it has bound, and what the log says about it. -/
def RequestTask.Stands (registry : TenantRegistry) (log : List Served) (id : Nat)
    (task : RequestTask) : Prop :=
  match task.progress with
  | .received => task.tenant = none ∧ id ∉ log.map Served.id
  | .forwarded copied => id ∉ log.map Served.id ∧
    ∃ context, resolve registry task.request.received = .ok context ∧ copied = some context
  | .handled answer => ⟨id, task.request, answer.map .answered⟩ ∈ log
  | .closed reply => task.tenant = none ∧ ⟨id, task.request, reply⟩ ∈ log

/--
A log that orders the requests served so far.

Served alone one after another, they get the replies of the log and leave the server's world.
-/
structure Serialises (registry : TenantRegistry) (service : OrderService) (start : World)
    (log : List Served) (server : AppServer) : Prop where
  world : server.world = (log.map Served.request).foldl (serialWorld registry service) start
  replies : Run.outputs (serialWorld registry service) (serialReply registry service) start
    (log.map Served.request) = log.map Served.reply
  once : (log.map Served.id).Nodup
  known : ∀ served ∈ log, (server.tasks served.id).isSome
  stands : ∀ id task, server.tasks id = some task → task.Stands registry log id

section Steps

variable {registry : TenantRegistry} {service : OrderService} {start : World} {log : List Served}
  {server : AppServer} {id : Nat} {task : RequestTask}

/-- A request served by another task changes nothing about this one. -/
theorem RequestTask.Stands.append (stands : task.Stands registry log id) {served : Served}
    (other : served.id ≠ id) : task.Stands registry (log ++ [served]) id := by
  -- What is logged stays logged, and what is not is not the new entry.
  have absent : id ∉ log.map Served.id → id ∉ (log ++ [served]).map Served.id := by
    intro absent member
    rw [List.map_append] at member
    rcases List.mem_append.mp member with old | new
    · exact absent old
    · exact other (List.mem_singleton.mp new).symm
  rcases task with ⟨request, tenant, progress⟩
  cases progress with
  | received => exact ⟨stands.1, absent stands.2⟩
  | forwarded copied => exact ⟨absent stands.1, stands.2⟩
  | handled answer => exact List.mem_append_left _ stands
  | closed reply => exact ⟨stands.1, List.mem_append_left _ stands.2⟩

/-- A task replaced without anything being served. -/
theorem Serialises.put (serialises : Serialises registry service start log server)
    (stands : task.Stands registry log id) :
    Serialises registry service start log (server.put id task) where
  world := serialises.world
  replies := serialises.replies
  once := serialises.once
  known := by
    intro served member
    by_cases here : served.id = id
    · simp [AppServer.put, here]
    · simpa [AppServer.put, here] using serialises.known served member
  stands := by
    intro other found place
    by_cases here : other = id
    · subst here
      simp only [AppServer.put, Function.update_self, Option.some.injEq] at place
      exact place ▸ stands
    · simp only [AppServer.put, Function.update_of_ne here] at place
      exact serialises.stands other found place

/-- A task replaced when its request is served. -/
theorem Serialises.serve (serialises : Serialises registry service start log server)
    (task : RequestTask) {reply : HttpReply} (world : World) (unlogged : id ∉ log.map Served.id)
    (replied : serialReply registry service server.world task.request = reply)
    (leaves : serialWorld registry service server.world task.request = world)
    (stands : task.Stands registry (log ++ [⟨id, task.request, reply⟩]) id) :
    Serialises registry service start (log ++ [⟨id, task.request, reply⟩])
      (AppServer.put { server with world := world } id task) where
  world := by
    rw [List.map_append, List.foldl_append, ← serialises.world]
    exact leaves.symm
  replies := by
    rw [List.map_append, Run.outputs_append, serialises.replies, ← serialises.world, List.map_append]
    show log.map Served.reply ++ [serialReply registry service server.world task.request] = _
    rw [replied]
    rfl
  once := by
    rw [List.map_append, List.nodup_append]
    refine ⟨serialises.once, List.nodup_singleton _, ?_⟩
    intro old member added here same
    rw [List.map_singleton, List.mem_singleton] at here
    have logged : old = id := same.trans here
    exact unlogged (logged ▸ member)
  known := by
    intro served member
    by_cases here : served.id = id
    · simp [AppServer.put, here]
    · rcases List.mem_append.mp member with old | new
      · simpa [AppServer.put, here] using serialises.known served old
      · rw [List.mem_singleton.mp new] at here
        exact absurd rfl here
  stands := by
    intro other found place
    by_cases here : other = id
    · subst here
      simp only [AppServer.put, Function.update_self, Option.some.injEq] at place
      exact place ▸ stands
    · simp only [AppServer.put, Function.update_of_ne here] at place
      exact (serialises.stands other found place).append fun same => here same.symm

/-- Every turn keeps the log a serial order of what has been served. -/
theorem Serialises.turn (serialises : Serialises registry service start log server) (turn : Turn) :
    Serialises registry service start (log ++ server.serves registry service turn)
      (server.turn registry service turn) := by
  have nothing : Serialises registry service start (log ++ []) server := by
    rw [List.append_nil]
    exact serialises
  -- Each turn finds its task at the point before it, or does nothing.
  cases turn with
  | receive id request =>
    simp only [AppServer.turn, AppServer.serves, List.append_nil]
    cases place : server.tasks id with
    | some task => exact serialises
    | none =>
      refine serialises.put ⟨rfl, fun member => ?_⟩
      obtain ⟨served, logged, same⟩ := List.mem_map.mp member
      have known := serialises.known served logged
      rw [same, place] at known
      cases known
  | dispatch id =>
    simp only [AppServer.turn, AppServer.serves]
    cases place : server.tasks id with
    | none => exact nothing
    | some task =>
      have stands := serialises.stands id task place
      rcases task with ⟨request, tenant, progress⟩
      cases progress with
      | forwarded | handled | closed => exact nothing
      | received =>
        obtain ⟨unbound, unlogged⟩ := stands
        simp only [RequestTask.dispatched, route_guarded, Bool.false_eq_true, if_false]
        -- Resolution refuses the request, which serves it, or gives it its tenant.
        rcases resolve_cases registry request.received with
          ⟨context, -, -, resolved⟩ | ⟨message, refused⟩
        · simp only [resolved, List.append_nil]
          exact serialises.put ⟨unlogged, context, resolved, rfl⟩
        · simp only [refused]
          have alone := serveAlone_refused service server.world refused
          have replied : serialReply registry service server.world request =
              .ok (.refused 400 message) := resultOf_ok alone
          have leaves : serialWorld registry service server.world request = server.world := by
            rw [serialWorld, stateAfter_ok alone]
          have closed : RequestTask.Stands registry
              (log ++ [⟨id, request, .ok (.refused 400 message)⟩]) id
              ⟨request, tenant, .closed (.ok (.refused 400 message))⟩ :=
            ⟨unbound, List.mem_append_right _ (List.mem_singleton_self _)⟩
          exact serialises.serve ⟨request, tenant, .closed (.ok (.refused 400 message))⟩
            server.world unlogged replied leaves closed
  | handle id =>
    simp only [AppServer.turn, AppServer.serves]
    cases place : server.tasks id with
    | none => exact nothing
    | some task =>
      have stands := serialises.stands id task place
      rcases task with ⟨request, tenant, progress⟩
      cases progress with
      | received | handled | closed => exact nothing
      | forwarded copied =>
        -- The copied context is the one that the request alone would be given.
        obtain ⟨unlogged, context, resolved, rfl⟩ := stands
        exact serialises.serve ⟨request, tenant, .handled (resultOf (request.route.handler service
            (some context)) server.world)⟩ _ unlogged
          (serialReply_resolved service server.world resolved)
          (serialWorld_resolved service server.world resolved)
          (List.mem_append_right _ (List.mem_singleton_self _))
  | finish id =>
    simp only [AppServer.turn, AppServer.serves, List.append_nil]
    cases place : server.tasks id with
    | none => exact serialises
    | some task =>
      have stands := serialises.stands id task place
      rcases task with ⟨request, tenant, progress⟩
      cases progress with
      | received | forwarded | closed => exact serialises
      | handled answer =>
        -- The path is not exempt, so that the tenant is unbound.
        simp only [RequestTask.finished, route_guarded, Bool.false_eq_true, if_false]
        exact serialises.put ⟨rfl, stands⟩

end Steps

/-- What a longer run serves begins with what its first part serves. -/
theorem AppServer.log_append (registry : TenantRegistry) (service : OrderService)
    (server : AppServer) (first second : List Turn) :
    server.log registry service (first ++ second) =
      server.log registry service first ++
        (server.run registry service first).log registry service second := by
  induction first generalizing server with
  | nil => rfl
  | cons turn rest ih =>
    simp only [List.cons_append, AppServer.log, ih, List.append_assoc]
    rfl

/-- A run keeps a log that it is given, with what it serves behind it. -/
theorem Serialises.run {registry : TenantRegistry} {service : OrderService} {start : World}
    {log : List Served} {server : AppServer}
    (serialises : Serialises registry service start log server) (turns : List Turn) :
    Serialises registry service start (log ++ server.log registry service turns)
      (server.run registry service turns) := by
  induction turns generalizing log server with
  | nil => simpa [AppServer.log, AppServer.run] using serialises
  | cons turn rest ih =>
    rw [AppServer.log, ← List.append_assoc]
    exact ih (serialises.turn turn)

/-- Before the first turn the empty log will do. -/
theorem serialises_new (registry : TenantRegistry) (service : OrderService) (world : World) :
    Serialises registry service world [] (AppServer.new world) := by
  refine ⟨rfl, rfl, List.nodup_nil, ?_, ?_⟩
  · intro served member
    cases member
  · intro id task place
    cases place

/--
Any interleaving of requests is equivalent to serving them one after another.

The order is that of the log, which only grows: a request stands behind all that were closed before
it was received.
-/
theorem concurrent_serialises (registry : TenantRegistry) (service : OrderService) (world : World)
    (turns later : List Turn) :
    Serialises registry service world ((AppServer.new world).log registry service turns)
        ((AppServer.new world).run registry service turns) ∧
      (AppServer.new world).log registry service (turns ++ later) =
        (AppServer.new world).log registry service turns ++
          ((AppServer.new world).run registry service turns).log registry service later :=
  -- The invariant is carried along the run from the empty log.
  ⟨(serialises_new registry service world).run turns,
    AppServer.log_append registry service _ turns later⟩

end JolCommerce
