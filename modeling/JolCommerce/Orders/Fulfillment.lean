import JolCommerce.Orders.Runs

/-! The fulfillment service, and runs that mix its operations with those of the order service. -/

namespace JolCommerce

open Python

/-- Record of a fulfillment action. -/
structure FulfillmentEvent where
  orderId : String
  eventType : String
  details : String
  timestamp : String

/-- The world of the order service together with the fulfillment service's list of events. -/
structure Shop where
  world : World
  events : List FulfillmentEvent

/-- Code of either service: it may raise and leaves its effects behind. -/
abbrev ShopM := EStateM PyError Shop

/-- Run code of the order service. -/
def ShopM.ofService {α : Type} (code : ServiceM α) : ShopM α := fun shop =>
  match code.run shop.world with
  | .ok value world => .ok value { shop with world }
  | .error error world => .error error { shop with world }

namespace FulfillmentService

/-- Common body of the fulfillment operations: move the order, then keep an event. -/
def advance (ref : OrderRef) (newStatus : OrderStatus) (changedBy reason eventType details : String)
    (moment : DateTime) : ShopM FulfillmentEvent := do
  let shop ← get
  match (shop.world.orders ref).transitionTo newStatus changedBy reason moment with
  | .error error => throw error
  | .ok (change, order) =>
    -- Neither the repository nor the audit log is told.
    let event := ⟨order.orderId, eventType, details, change.changedAt⟩
    set { shop with world := shop.world.withOrder ref order, events := shop.events ++ [event] }
    return event

/-- `confirm_payment(order, payment_intent_id)`. -/
def confirmPayment (ref : OrderRef) (paymentIntentId : String) : DateTime → ShopM FulfillmentEvent :=
  advance ref .confirmed "stripe_webhook" ("Payment confirmed: " ++ paymentIntentId)
    "payment_confirmed" ("Payment intent " ++ paymentIntentId ++ " confirmed")

/-- `start_service(order, assigned_to)`. -/
def startService (ref : OrderRef) (assignedTo : String) : DateTime → ShopM FulfillmentEvent :=
  advance ref .inProgress "dispatch" ("Service assigned: " ++ assignedTo) "service_started"
    ("Assigned: " ++ assignedTo)

end FulfillmentService

/-- One call of the fulfillment service, with what the clock gives it. -/
inductive FulfillmentCall where
  | confirmPayment (paymentIntentId : String) (moment : DateTime)
  | startService (assignedTo : String) (moment : DateTime)

/-- A request to either service. -/
inductive ShopRequest where
  | service (request : OrderService.Request)
  | fulfillment (ref : OrderRef) (call : FulfillmentCall)

/-- The order a request is about. -/
def ShopRequest.ref : ShopRequest → OrderRef
  | .service request => request.ref
  | .fulfillment ref _ => ref

namespace OrderService

/-- The operation a request stands for, its result left aside. -/
def attempt (service : OrderService) (request : Request) : ServiceM Unit :=
  match request.operation with
  | .register actor stamp => service.register request.tenant request.ref actor stamp
  | .lifecycle call actor reason readings => do
    let _ ← service.lifecycle request.tenant request.ref actor reason readings call
  | .reverse actor fraction reason entryStamp auditStamp => do
    let _ ← service.recordCommissionReversal request.ref actor fraction reason entryStamp auditStamp

end OrderService

namespace Shop

/-- The operation a request stands for, its result left aside. -/
def attempt (service : OrderService) : ShopRequest → ShopM Unit
  | .service request => .ofService (service.attempt request)
  | .fulfillment ref (.confirmPayment paymentIntentId moment) => do
    let _ ← FulfillmentService.confirmPayment ref paymentIntentId moment
  | .fulfillment ref (.startService assignedTo moment) => do
    let _ ← FulfillmentService.startService ref assignedTo moment

/-- The shop after a request, whether it returned or raised. -/
def step (service : OrderService) (shop : Shop) (request : ShopRequest) : Shop :=
  stateAfter (attempt service request) shop

/-- A request returns normally. -/
def Returns (service : OrderService) (shop : Shop) (request : ShopRequest) : Prop :=
  ∃ after, (attempt service request).run shop = .ok () after

end Shop

end JolCommerce
