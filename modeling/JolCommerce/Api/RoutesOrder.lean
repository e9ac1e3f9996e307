import JolCommerce.Orders.Books

/-! The order routes: requests in a bound tenant's context, served through the repository's lookup. -/

namespace JolCommerce

open Python

/-- One item of an order request. -/
structure OrderItemSchema where
  description : String
  quantity : Int
  unitPriceCents : Int

/-- `item.model_dump()`. -/
def OrderItemSchema.modelDump (item : OrderItemSchema) : JsonObject :=
  .ofList [("description", .str item.description), ("quantity", .int item.quantity),
    ("unit_price_cents", .int item.unitPriceCents)]

/-- Request to create an order. -/
structure CreateOrderRequest where
  customerId : String
  items : List OrderItemSchema
  totalAmountCents : Int
  currency : String := "EUR"
  countryCode : String
  paymentMode : String := "online_prepay"
  serviceType : String := ""

/-- Request to transition, complete or cancel an order. -/
structure OrderTransitionRequest where
  status : String := ""
  actor : String
  reason : String := ""

/-- Order response. -/
structure OrderResponse where
  orderId : String
  tenantId : String
  status : String
  paymentMode : String
  totalAmountCents : Int
  currency : String
  externalId : String
  commissionRate : Option String
  platformFeeCents : Option Int

/-- What is drawn while an order is created. -/
structure CreateReadings where
  orderUuid : Uuid
  /-- The external id and the time of creation. -/
  orderStamp : Stamp
  createdStamp : Stamp

/-- A new order object. -/
def World.allocated (world : World) (order : Order) : World :=
  { world.withOrder world.nextRef order with nextRef := world.nextRef + 1 }

namespace RoutesOrder

/-- `_to_response(order)`. -/
def toResponse (order : Order) : OrderResponse where
  orderId := order.orderId
  tenantId := order.tenantId
  status := order.status.value
  paymentMode := order.paymentMode.value
  totalAmountCents := order.totalAmountCents
  currency := order.currency
  externalId := order.externalId
  commissionRate := order.commissionSnapshot.map CommissionSnapshot.rate
  platformFeeCents := order.commissionSnapshot.map CommissionSnapshot.platformFeeCents

/-- `_require_tenant()`. -/
def requireTenant (tenant : Option TenantContext) : Except PyError TenantContext :=
  match tenant with
  | some context => .ok context
  | none => .error (.httpException 400 "No tenant context bound to this request")

/-- `PaymentMode(text)`. -/
def readPaymentMode (text : String) : Except PyError PaymentMode :=
  match PaymentMode.parse? text with
  | some mode => .ok mode
  | none => .error (.valueError ("'" ++ text ++ "' is not a valid PaymentMode"))

/-- `OrderStatus(text)`. -/
def readOrderStatus (text : String) : Except PyError OrderStatus :=
  match OrderStatus.parse? text with
  | some status => .ok status
  | none => .error (.valueError ("'" ++ text ++ "' is not a valid OrderStatus"))

/-- `f"ORD-{uuid.uuid4().hex[:12]}"`. -/
def newOrderId (uuid : Uuid) : String := "ORD-" ++ String.ofList (uuid.hex.toList.take 12)

/-- The order `create_order` constructs. -/
def newOrder (context : TenantContext) (mode : PaymentMode) (request : CreateOrderRequest)
    (readings : CreateReadings) : Order where
  orderId := newOrderId readings.orderUuid
  tenantId := context.tenantId
  paymentMode := mode
  customerId := request.customerId
  items := request.items.map OrderItemSchema.modelDump
  totalAmountCents := request.totalAmountCents
  currency := request.currency
  countryCode := request.countryCode
  branchId := context.tenant.branchId
  serviceType := request.serviceType
  externalId := readings.orderStamp.uuid.toStr
  createdAt := readings.orderStamp.moment.isoformat

/-- `_get_order_or_404(order_id)`. -/
def getOrderOr404 (tenant : Option TenantContext) (orderId : String) : ServiceM OrderRef := do
  match ← OrderRepository.findById tenant orderId with
  | some ref => return ref
  | none => throw (.httpException 404 "Order not found")

/-- `except ValueError as e: raise HTTPException(status_code=409, detail=str(e))`. -/
def conflicting {α : Type} (call : ServiceM α) : ServiceM α :=
  -- What the call did before it raised stays done.
  tryCatch call fun error =>
    match error with
    | .valueError message => throw (.httpException 409 message)
    | other => throw other

/-- Common body of the lifecycle routes: look the order up, apply a call to it, respond. -/
def applied (tenant : Option TenantContext) (orderId : String)
    (call : OrderRef → ServiceM OrderStateChange) : ServiceM OrderResponse := do
  let ref ← getOrderOr404 tenant orderId
  let _ ← conflicting (call ref)
  return toResponse ((← get).orders ref)

section Routes

variable (service : OrderService) (tenant : Option TenantContext)

/-- `create_order(request)`. -/
def createOrder (request : CreateOrderRequest) (readings : CreateReadings) :
    ServiceM OrderResponse := do
  let context ← .lift (requireTenant tenant)
  -- The text is read while the order is constructed, so nothing exists yet when it is refused.
  let mode ← .lift (readPaymentMode request.paymentMode)
  let ref := (← get).nextRef
  modify fun world => world.allocated (newOrder context mode request readings)
  -- The order object exists from here on, whether or not it is registered.
  service.register tenant ref request.customerId readings.createdStamp
  return toResponse ((← get).orders ref)

/-- `get_order(order_id)`. -/
def getOrder (orderId : String) : ServiceM OrderResponse := do
  let ref ← getOrderOr404 tenant orderId
  return toResponse ((← get).orders ref)

/-- `transition_order(order_id, request)`. -/
def transitionOrder (orderId : String) (request : OrderTransitionRequest)
    (readings : LifecycleReadings) : ServiceM OrderResponse :=
  applied tenant orderId fun ref => do
    let status ← .lift (readOrderStatus request.status)
    service.transition tenant ref status request.actor request.reason readings

/-- `complete_order(order_id, request)`. -/
def completeOrder (orderId : String) (request : OrderTransitionRequest)
    (readings : LifecycleReadings) : ServiceM OrderResponse :=
  applied tenant orderId fun ref =>
    service.complete tenant ref request.actor request.reason readings

/-- `cancel_order(order_id, request)`. -/
def cancelOrder (orderId : String) (request : OrderTransitionRequest)
    (readings : LifecycleReadings) : ServiceM OrderResponse :=
  applied tenant orderId fun ref =>
    service.cancel tenant ref request.actor request.reason readings

/-- A reversal of an order that was looked up, with the object that was found. -/
def reverseOrder (orderId actor fraction reason : String) (entryStamp auditStamp : Stamp) :
    ServiceM (OrderRef × LedgerEntry) := do
  let ref ← getOrderOr404 tenant orderId
  let entry ← service.recordCommissionReversal ref actor fraction reason entryStamp auditStamp
  return (ref, entry)

end Routes

section Lookups

variable (tenant : Option TenantContext) (orderId : String) (world : World)

/-- The order that a lookup in a tenant's context gives. -/
def Finds (ref : OrderRef) : Prop :=
  world.repository.get? orderId = some ref ∧ Allows tenant (world.orders ref).tenantId

/-- A lookup changes nothing: it gives an order of the tenant or raises. -/
theorem getOrderOr404_cases :
    (∃ error, (getOrderOr404 tenant orderId).run world = .error error world) ∨
      ∃ ref, Finds tenant orderId world ref ∧
        (getOrderOr404 tenant orderId).run world = .ok ref world := by
  -- An unknown id is answered with 404, a foreign order raises in the repository.
  rcases OrderRepository.findById_cases tenant orderId world with
    ⟨_, missing⟩ | ⟨ref, place, ⟨allowed, found⟩ | ⟨_, error, raised⟩⟩
  · exact Or.inl ⟨.httpException 404 "Order not found", by simp [getOrderOr404, missing]⟩
  · exact Or.inr ⟨ref, ⟨place, allowed⟩, by simp [getOrderOr404, found]⟩
  · exact Or.inl ⟨error, by simp [getOrderOr404, raised]⟩

/-- Turning one exception into another changes neither what is returned nor what was done. -/
theorem run_conflicting {α : Type} (call : ServiceM α) :
    (conflicting call).run world =
      match call.run world with
      | .ok value after => .ok value after
      | .error (.valueError message) after => .error (.httpException 409 message) after
      | .error other after => .error other after := by
  -- The handler raises in every case, and raising does not touch the state.
  show EStateM.tryCatch call _ world = _
  unfold EStateM.tryCatch EStateM.run
  cases call world with
  | ok value after => rfl
  | error error after => cases error <;> rfl

/-- Turning one exception into another keeps what was done. -/
theorem stateAfter_conflicting {α : Type} (call : ServiceM α) :
    stateAfter (conflicting call) world = stateAfter call world := by
  unfold stateAfter
  rw [run_conflicting]
  cases call.run world with
  | ok value after => rfl
  | error error after => cases error <;> rfl

/-- A lifecycle route does nothing, or it does what its call does to the order it found. -/
theorem stateAfter_applied (call : OrderRef → ServiceM OrderStateChange) :
    stateAfter (applied tenant orderId call) world = world ∨
      ∃ ref, Finds tenant orderId world ref ∧
        stateAfter (applied tenant orderId call) world = stateAfter (call ref) world := by
  rcases getOrderOr404_cases tenant orderId world with ⟨error, raised⟩ | ⟨ref, finds, found⟩
  · have ends : (applied tenant orderId call).run world = .error error world := by
      simp [applied, raised]
    exact Or.inl (stateAfter_error ends)
  · refine Or.inr ⟨ref, finds, ?_⟩
    -- Building the response reads the order and changes nothing.
    rw [← stateAfter_conflicting world (call ref)]
    unfold stateAfter applied
    rw [EStateM.run_bind, found]
    simp only [EStateM.run_bind]
    cases (conflicting (call ref)).run world with
    | ok change after => rfl
    | error error after => rfl

end Lookups

/-- A created order is the tenant's already, so that registering it binds nothing. -/
theorem bindTenant_newOrder (context : TenantContext) (mode : PaymentMode)
    (request : CreateOrderRequest) (readings : CreateReadings) :
    OrderService.bindTenant (some context) (newOrder context mode request readings) =
      newOrder context mode request readings := by
  unfold OrderService.bindTenant
  split
  · rfl
  · -- An unowned order means a tenant without an id; even then the fields stay as they are.
    show ({ newOrder context mode request readings with
      tenantId := context.tenantId
      branchId := if context.tenant.branchId = "" then context.tenant.branchId
        else context.tenant.branchId } : Order) = newOrder context mode request readings
    rw [ite_id]
    rfl

/-- The world after an order was created. -/
def afterCreate (service : OrderService) (context : TenantContext) (mode : PaymentMode)
    (request : CreateOrderRequest) (readings : CreateReadings) (world : World) : World :=
  service.afterRegister (some context) world.nextRef request.customerId
    (world.allocated (newOrder context mode request readings)) readings.createdStamp

/-- A creation does nothing, or it stores a new order of the tenant. -/
theorem stateAfter_createOrder (service : OrderService) (context : TenantContext)
    (request : CreateOrderRequest) (readings : CreateReadings) (world : World) :
    stateAfter (createOrder service (some context) request readings) world = world ∨
      ∃ mode, stateAfter (createOrder service (some context) request readings) world =
        afterCreate service context mode request readings world := by
  -- The payment mode is read before anything is allocated.
  cases read : readPaymentMode request.paymentMode with
  | error error =>
    have ends : (createOrder service (some context) request readings).run world =
        .error error world := by
      simp [createOrder, requireTenant, read]
    exact Or.inl (stateAfter_error ends)
  | ok mode =>
    refine Or.inr ⟨mode, ?_⟩
    have outcome := OrderService.register_outcome service (some context) world.nextRef
      request.customerId (world.allocated (newOrder context mode request readings))
      readings.createdStamp
    generalize result : (service.register (some context) world.nextRef request.customerId
      readings.createdStamp).run (world.allocated (newOrder context mode request readings)) =
      registered at outcome
    cases outcome with
    | denied foreign error =>
      -- The tenant may touch the order, since it carries the tenant's own id.
      refine absurd ?_ foreign
      intro bound same
      cases same
      exact Or.inr (by simp [World.allocated, World.withOrder, newOrder])
    | registered allowed =>
      have ends : (createOrder service (some context) request readings).run world =
          .ok (toResponse ((afterCreate service context mode request readings world).orders
            world.nextRef)) (afterCreate service context mode request readings world) := by
        simp only [createOrder, requireTenant, read, EStateM.run_bind, ServiceM.run_lift_ok,
          EStateM.run_get, EStateM.run_modify, result]
        rfl
      exact stateAfter_ok ends

end RoutesOrder

/-- A call of the order API, or a reversal of an order. -/
inductive ApiCall where
  | create (request : CreateOrderRequest) (readings : CreateReadings)
  | transition (orderId : String) (request : OrderTransitionRequest) (readings : LifecycleReadings)
  | complete (orderId : String) (request : OrderTransitionRequest) (readings : LifecycleReadings)
  | cancel (orderId : String) (request : OrderTransitionRequest) (readings : LifecycleReadings)
  | reverse (orderId actor fraction reason : String) (entryStamp auditStamp : Stamp)

/-- A call with the tenant that is bound while it is served. -/
structure ApiRequest where
  context : TenantContext
  call : ApiCall

namespace OrderService

open RoutesOrder

/-- The journal after a request, whether it returned or raised. -/
def apiStep (service : OrderService) (journal : Journal) (request : ApiRequest) : Journal :=
  let tenant := some request.context
  match request.call with
  | .create create readings =>
    { journal with world := stateAfter (createOrder service tenant create readings) journal.world }
  | .transition orderId change readings =>
    { journal with
      world := stateAfter (transitionOrder service tenant orderId change readings) journal.world }
  | .complete orderId change readings =>
    { journal with
      world := stateAfter (completeOrder service tenant orderId change readings) journal.world }
  | .cancel orderId change readings =>
    { journal with
      world := stateAfter (cancelOrder service tenant orderId change readings) journal.world }
  | .reverse orderId actor fraction reason entryStamp auditStamp =>
    -- A reversal that returned is written down with the order it was made on.
    match (reverseOrder service tenant orderId actor fraction reason entryStamp auditStamp).run
      journal.world with
    | .ok (ref, _) after => ⟨after, journal.reversals ++ [(ref, fraction)]⟩
    | .error _ after => ⟨after, journal.reversals⟩

/-- Everything a request can do to the journal. -/
inductive ApiEffect (service : OrderService) (journal : Journal) (request : ApiRequest) :
    Journal → Prop where
  | none : ApiEffect service journal request journal
  | created (create : CreateOrderRequest) (readings : CreateReadings)
    (creates : request.call = .create create readings) (mode : PaymentMode) :
    ApiEffect service journal request
      { journal with
        world := afterCreate service request.context mode create readings journal.world }
  /-- A service operation on an order that was found in the tenant's context. -/
  | served (orderId : String) (ref : OrderRef)
    (finds : Finds (some request.context) orderId journal.world ref) (operation : Operation)
    (noRegister : ∀ actor stamp, operation ≠ .register actor stamp) :
    ApiEffect service journal request
      (service.journalStep journal ⟨some request.context, ref, operation⟩)

/-- A lifecycle route is a lifecycle call on the order it found, or nothing. -/
theorem applied_effect (service : OrderService) (journal : Journal) (request : ApiRequest)
    (orderId actor reason : String) (readings : LifecycleReadings) (call : LifecycleCall) :
    ApiEffect service journal request
      { journal with
        world := stateAfter (applied (some request.context) orderId fun ref =>
          service.lifecycle (some request.context) ref actor reason readings call) journal.world } := by
  -- A lifecycle call records no reversal, so that the journal gains nothing.
  rcases stateAfter_applied (some request.context) orderId journal.world (fun ref =>
    service.lifecycle (some request.context) ref actor reason readings call) with
    idle | ⟨ref, finds, same⟩
  · rw [idle]
    exact .none
  · rw [same]
    have effect := @ApiEffect.served service journal request orderId ref finds
      (.lifecycle call actor reason readings) (by simp)
    simpa [journalStep, recordedReversal, step] using effect

/-- Every request has one of these effects. -/
theorem apiStep_effect (service : OrderService) (journal : Journal) (request : ApiRequest) :
    ApiEffect service journal request (service.apiStep journal request) := by
  -- Every route looks its order up first; what it does then is a service operation.
  rcases request with ⟨context, call⟩
  cases call with
  | create create readings =>
    -- A creation is refused for its payment mode alone.
    rcases stateAfter_createOrder service context create readings journal.world with
      idle | ⟨mode, created⟩
    · simp only [apiStep, idle]
      exact .none
    · simp only [apiStep, created]
      exact .created create readings rfl mode
  | transition orderId change readings =>
    simp only [apiStep, transitionOrder]
    cases readOrderStatus change.status with
    | error error =>
      -- The text is read inside the route, before anything is done to the order.
      have raises : ∀ ref, (do
          let status ← .lift (.error error)
          service.transition (some context) ref status change.actor change.reason readings :
            ServiceM OrderStateChange).run journal.world = .error error journal.world := by
        intro ref
        simp
      rcases stateAfter_applied (some context) orderId journal.world (fun ref => do
        let status ← .lift (.error error)
        service.transition (some context) ref status change.actor change.reason readings) with
        idle | ⟨ref, finds, same⟩
      · rw [idle]
        exact .none
      · rw [same, stateAfter_error (raises ref)]
        exact .none
    | ok status =>
      have effect := applied_effect service journal
        ⟨context, .transition orderId change readings⟩ orderId change.actor change.reason readings
        (.transition status)
      exact effect
  | complete orderId change readings =>
    exact applied_effect service journal ⟨context, .complete orderId change readings⟩ orderId
      change.actor change.reason readings .complete
  | cancel orderId change readings =>
    exact applied_effect service journal ⟨context, .cancel orderId change readings⟩ orderId
      change.actor change.reason readings .cancel
  | reverse orderId actor fraction reason entryStamp auditStamp =>
    simp only [apiStep]
    rcases getOrderOr404_cases (some context) orderId journal.world with
      ⟨error, raised⟩ | ⟨ref, finds, found⟩
    · have ends : (reverseOrder service (some context) orderId actor fraction reason entryStamp
          auditStamp).run journal.world = .error error journal.world := by
        simp [reverseOrder, raised]
      rw [ends]
      exact .none
    · have effect := @ApiEffect.served service journal
        ⟨context, .reverse orderId actor fraction reason entryStamp auditStamp⟩ orderId ref finds
        (.reverse actor fraction reason entryStamp auditStamp) (by simp)
      unfold reverseOrder
      rw [EStateM.run_bind, found]
      simp only [EStateM.run_bind, journalStep, recordedReversal, step, stateAfter] at effect ⊢
      -- The route returns exactly when the recording does, and it names the order that was found.
      cases recorded : (service.recordCommissionReversal ref actor fraction reason entryStamp
        auditStamp).run journal.world with
      | ok entry after => simpa [recorded] using effect
      | error error after => simpa [recorded] using effect

end OrderService

end JolCommerce
