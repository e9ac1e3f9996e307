import JolCommerce.Api.ExactlyOnce
import JolCommerce.Orders.PairedCalls

/-! The order API as a server: what a request to one of its routes is answered and leaves behind. -/

namespace JolCommerce

open Python RoutesOrder

/-- A request to a route of the order API, and what is drawn and read while it is served. -/
inductive OrderRoute where
  | createOrder (request : CreateOrderRequest) (readings : CreateReadings)
  | getOrder (orderId : String)
  | transitionOrder (orderId : String) (request : OrderTransitionRequest)
    (readings : LifecycleReadings)
  | completeOrder (orderId : String) (request : OrderTransitionRequest)
    (readings : LifecycleReadings)
  | cancelOrder (orderId : String) (request : OrderTransitionRequest)
    (readings : LifecycleReadings)

namespace OrderRoute

/-- The prefix the routes are included under. -/
def routerPrefix : String := "/api/v1/orders"

/-- The path of a request. -/
def path : OrderRoute → String
  | createOrder .. => routerPrefix ++ "/"
  | getOrder orderId => routerPrefix ++ "/" ++ orderId
  | transitionOrder orderId .. => routerPrefix ++ "/" ++ orderId ++ "/transition"
  | completeOrder orderId .. => routerPrefix ++ "/" ++ orderId ++ "/complete"
  | cancelOrder orderId .. => routerPrefix ++ "/" ++ orderId ++ "/cancel"

/-- The order that a request names. -/
def orderId? : OrderRoute → Option String
  | createOrder .. => none
  | getOrder orderId => some orderId
  | transitionOrder orderId .. => some orderId
  | completeOrder orderId .. => some orderId
  | cancelOrder orderId .. => some orderId

/-- The function a route calls, in the context of the bound tenant. -/
def handler (service : OrderService) (tenant : Option TenantContext) :
    OrderRoute → ServiceM OrderResponse
  | createOrder request readings => RoutesOrder.createOrder service tenant request readings
  | getOrder orderId => RoutesOrder.getOrder tenant orderId
  | transitionOrder orderId request readings =>
    RoutesOrder.transitionOrder service tenant orderId request readings
  | completeOrder orderId request readings =>
    RoutesOrder.completeOrder service tenant orderId request readings
  | cancelOrder orderId request readings =>
    RoutesOrder.cancelOrder service tenant orderId request readings

end OrderRoute

/-- A request with the tenant that is bound while it is served. -/
structure OrderRequest where
  context : TenantContext
  route : OrderRoute

namespace OrderService

/-- What a request is answered: its response, or what was raised in its place. -/
def answer (service : OrderService) (world : World) (request : OrderRequest) :
    Except PyError OrderResponse :=
  resultOf (request.route.handler service (some request.context)) world

/-- The world a request leaves behind, whether it was answered or raised. -/
def afterRequest (service : OrderService) (world : World) (request : OrderRequest) : World :=
  stateAfter (request.route.handler service (some request.context)) world

/-- The request names an order that another tenant has stored. -/
def namesForeign (world : World) (request : OrderRequest) : Bool :=
  match request.route.orderId? with
  | none => false
  | some orderId => (world.storedOrder orderId).any fun order =>
    order.tenantId ≠ request.context.tenantId

/-- A creation draws an id under which nothing is stored yet. -/
def DrawsUnused (world : World) (request : OrderRequest) : Prop :=
  ∀ create readings, request.route = .createOrder create readings →
    world.repository.get? (newOrderId readings.orderUuid) = none

end OrderService

end JolCommerce
