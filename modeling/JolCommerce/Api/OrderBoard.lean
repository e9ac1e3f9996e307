import JolCommerce.Api.OrderServer

/-! The order API as its clients see it: a board that holds a card for every order id. -/

namespace JolCommerce

open Python RoutesOrder

/-- What the responses of the API show of an order. -/
structure OrderCard where
  orderId : String
  tenantId : String
  status : OrderStatus
  paymentMode : PaymentMode
  totalAmountCents : Int
  currency : String
  externalId : String
  /-- The rate and the platform fee, once they have been calculated. -/
  commission : Option (String × Int) := none

namespace OrderCard

/-- The response that shows a card. -/
def response (card : OrderCard) : OrderResponse where
  orderId := card.orderId
  tenantId := card.tenantId
  status := card.status.value
  paymentMode := card.paymentMode.value
  totalAmountCents := card.totalAmountCents
  currency := card.currency
  externalId := card.externalId
  commissionRate := card.commission.map Prod.fst
  platformFeeCents := card.commission.map Prod.snd

/-- The card of an order that a tenant opens. -/
def opened (context : TenantContext) (mode : PaymentMode) (request : CreateOrderRequest)
    (readings : CreateReadings) : OrderCard where
  orderId := newOrderId readings.orderUuid
  tenantId := context.tenantId
  status := .draft
  paymentMode := mode
  totalAmountCents := request.totalAmountCents
  currency := request.currency
  externalId := readings.orderStamp.uuid.toStr

/-- The message for a status that cannot follow. -/
def refusal (source target : OrderStatus) : String :=
  "Invalid transition: " ++ source.value ++ " → " ++ target.value ++ ". Allowed: [" ++
    ", ".intercalate ((validTransitions source).map fun status => "'" ++ status.value ++ "'") ++ "]"

section Moves

variable (service : OrderService) (context : TenantContext) (card : OrderCard)

/-- The card after a status change was asked for, and what the change raised. -/
def advanced (target : OrderStatus) : OrderCard × Except PyError Unit :=
  if target ∈ validTransitions card.status then
    let moved := { card with status := target }
    if target = .completed then
      match service.commissionEngine.calculate card.totalAmountCents
        (some context.tenant.commissionRate) with
      | .ok split =>
        ({ moved with commission := some (split.rateStr, split.platformFeeCents) }, .ok ())
      -- A commission that cannot be calculated leaves the order completed without one.
      | .error error => (moved, .error error)
    else (moved, .ok ())
  else (card, .error (.valueError (refusal card.status target)))

/-- The same where the status is given as a text. -/
def transitioned (status : String) : OrderCard × Except PyError Unit :=
  match readOrderStatus status with
  | .ok target => card.advanced service context target
  | .error error => (card, .error error)

/-- A cancellation asks for a refund once the order is cancelled. -/
def cancelled (refund : Except PyError String) : OrderCard × Except PyError Unit :=
  match card.advanced service context .cancelled with
  | (after, .ok _) => (after, if service.refundsConfigured then refund.map fun _ => () else .ok ())
  | refused => refused

end Moves

end OrderCard

/-- The cards by order id. -/
abbrev OrderBoard := String → Option OrderCard

/-- A refused value becomes a conflict. -/
def conflictOf : PyError → PyError
  | .valueError message => .httpException 409 message
  | other => other

namespace OrderBoard

/-- The board before any order was opened. -/
def empty : OrderBoard := fun _ => none

variable (board : OrderBoard)

/-- The card that a tenant is shown for an id. -/
def find (context : TenantContext) (orderId : String) : Except PyError OrderCard :=
  match board orderId with
  | none => .error (.httpException 404 "Order not found")
  | some card => (OrderRepository.checkTenant (some context) card.tenantId).map fun _ => card

/-- The card of an id is handed to a call and put back as the call leaves it. -/
def handed (context : TenantContext) (orderId : String)
    (call : OrderCard → OrderCard × Except PyError Unit) : Except PyError OrderResponse × OrderBoard :=
  match board.find context orderId with
  | .error error => (.error error, board)
  | .ok card =>
    let (after, result) := call card
    let answer := match result with
      | .ok _ => .ok after.response
      | .error error => .error (conflictOf error)
    (answer, Function.update board orderId (some after))

/-- A new card is put up; whatever was there under its id is replaced. -/
def opened (context : TenantContext) (request : CreateOrderRequest) (readings : CreateReadings) :
    Except PyError OrderResponse × OrderBoard :=
  match readPaymentMode request.paymentMode with
  | .error error => (.error error, board)
  | .ok mode =>
    let card := OrderCard.opened context mode request readings
    (.ok card.response, Function.update board card.orderId (some card))

/-- What a request is answered, and the board it leaves. -/
def serve (service : OrderService) (request : OrderRequest) :
    Except PyError OrderResponse × OrderBoard :=
  match request.route with
  | .createOrder create readings => board.opened request.context create readings
  | .getOrder orderId => board.handed request.context orderId fun card => (card, .ok ())
  | .transitionOrder orderId change _ =>
    board.handed request.context orderId fun card =>
      card.transitioned service request.context change.status
  | .completeOrder orderId _ _ =>
    board.handed request.context orderId fun card => card.advanced service request.context .completed
  | .cancelOrder orderId _ readings =>
    board.handed request.context orderId fun card =>
      card.cancelled service request.context readings.refund

/-- The answer alone. -/
def answer (service : OrderService) (board : OrderBoard) (request : OrderRequest) :
    Except PyError OrderResponse := (board.serve service request).1

/-- The board alone. -/
def after (service : OrderService) (board : OrderBoard) (request : OrderRequest) : OrderBoard :=
  (board.serve service request).2

end OrderBoard

/-- What shows of an order. -/
def Order.card (order : Order) : OrderCard where
  orderId := order.orderId
  tenantId := order.tenantId
  status := order.status
  paymentMode := order.paymentMode
  totalAmountCents := order.totalAmountCents
  currency := order.currency
  externalId := order.externalId
  commission := order.commissionSnapshot.map fun snapshot =>
    (snapshot.rate, snapshot.platformFeeCents)

/-- The response of an order shows its card. -/
theorem toResponse_card (order : Order) : toResponse order = order.card.response := by
  simp only [toResponse, Order.card, OrderCard.response, Option.map_map]
  rfl

/-- The objects of a world and the cards of a board tell the same. -/
structure Shows (world : World) (board : OrderBoard) : Prop where
  named : ∀ orderId ref, world.repository.get? orderId = some ref →
    (world.orders ref).orderId = orderId
  existing : ∀ orderId ref, world.repository.get? orderId = some ref → ref < world.nextRef
  cards : ∀ orderId, (world.storedOrder orderId).map Order.card = board orderId

/-- Nothing is stored at first, and no card is up. -/
theorem shows_fresh (orders : OrderRef → Order) (nextRef : OrderRef) :
    Shows (World.fresh orders nextRef) OrderBoard.empty := by
  refine ⟨?_, ?_, fun _ => rfl⟩
  · intro orderId ref found
    cases found
  · intro orderId ref found
    cases found

end JolCommerce
