import JolCommerce.Api.BoardRefinement
import JolCommerce.Api.ConcurrentRequests

/-! Requests in flight at the same time are answered as the board answers them in one order. -/

namespace JolCommerce

open Python TenantResolutionMiddleware

namespace OrderBoard

variable (registry : TenantRegistry) (service : OrderService)

/-- The reply to a request, by the board and the tenant that the request is resolved to. -/
def reply (board : OrderBoard) (request : HttpRequest) : HttpReply :=
  match resolve registry request.received with
  | .ok context => (board.answer service ⟨context, request.route⟩).map .answered
  | .error (.tenantNotFound message) => .ok (.refused 400 message)
  | .error error => .error error

/-- The board after it. -/
def replied (board : OrderBoard) (request : HttpRequest) : OrderBoard :=
  match resolve registry request.received with
  | .ok context => board.after service ⟨context, request.route⟩
  | .error _ => board

variable {registry service}

/-- A request that is served alone is replied to as the board replies. -/
theorem reply_refines {world : World} {board : OrderBoard} (shows : Shows world board)
    (request : HttpRequest) :
    serialReply registry service world request = board.reply registry service request ∧
      Shows (serialWorld registry service world request) (board.replied registry service request) := by
  unfold reply replied
  rcases resolve_cases registry request.received with
    ⟨context, -, -, resolved⟩ | ⟨message, refused⟩
  · -- The route runs in the tenant of the request, on the world and on the board.
    obtain ⟨same, follows⟩ := serve_refines service shows ⟨context, request.route⟩
    rw [serialReply_resolved service world resolved, serialWorld_resolved service world resolved,
      resolved]
    exact ⟨congrArg (Except.map Reply.answered) same, follows⟩
  · have alone := serveAlone_refused service world refused
    have unchanged : serialWorld registry service world request = world := by
      rw [serialWorld, stateAfter_ok alone]
    rw [unchanged, refused]
    exact ⟨resultOf_ok alone, shows⟩

end OrderBoard

/-- A log in which every request that was replied to took effect at a single point. -/
structure Linearises (registry : TenantRegistry) (service : OrderService) (log : List Served)
    (server : AppServer) : Prop where
  /-- The board, asked in the order of the log, gives the replies of the log. -/
  replies : Run.outputs (OrderBoard.replied registry service) (OrderBoard.reply registry service)
    OrderBoard.empty (log.map Served.request) = log.map Served.reply
  once : (log.map Served.id).Nodup
  /-- What was replied is in the log. -/
  closed : ∀ id task reply, server.tasks id = some task → task.progress = .closed reply →
    ⟨id, task.request, reply⟩ ∈ log
  /-- What has not been received yet is not in it. -/
  unreceived : ∀ id, server.tasks id = none → id ∉ log.map Served.id

/--
The concurrent server is linearizable to its board.

Whatever turns its tasks take, all replies are those of the board for the requests in one order. The
order respects real time: what was replied before a request was received stands before it, because
the log of a run begins with the log of each of its first parts.
-/
theorem linearizable (registry : TenantRegistry) (service : OrderService) (orders : OrderRef → Order)
    (nextRef : OrderRef) (turns later : List Turn) :
    let server := AppServer.new (World.fresh orders nextRef)
    Linearises registry service (server.log registry service turns)
        (server.run registry service turns) ∧
      server.log registry service turns <+: server.log registry service (turns ++ later) := by
  intro server
  have serialises := (serialises_new registry service (World.fresh orders nextRef)).run turns
  rw [List.nil_append] at serialises
  refine ⟨⟨?_, serialises.once, ?_, ?_⟩, ?_⟩
  · -- Served one after another, the requests find the world and the board in step.
    have each : ∀ world board request, Shows world board →
        serialReply registry service world request = board.reply registry service request ∧
          Shows (serialWorld registry service world request)
            (board.replied registry service request) :=
      fun _ _ request shows => OrderBoard.reply_refines shows request
    have same := (Run.outputs_eq each (shows_fresh orders nextRef)
      ((server.log registry service turns).map Served.request)).1
    exact same.symm.trans serialises.replies
  · intro id task reply place progress
    have stands := serialises.stands id task place
    unfold RequestTask.Stands at stands
    rw [progress] at stands
    exact stands.2
  · intro id missing member
    obtain ⟨served, logged, same⟩ := List.mem_map.mp member
    have known := serialises.known served logged
    rw [same, missing] at known
    cases known
  · rw [AppServer.log_append]
    exact List.prefix_append _ _

end JolCommerce
