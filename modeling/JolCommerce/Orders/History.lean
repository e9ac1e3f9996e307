import JolCommerce.Orders.Fulfillment

/-! What a request does to the status and the history of orders: nothing, or one valid transition. -/

namespace JolCommerce

open Python

/-- What the state machine knows of an order. -/
def Order.standing (order : Order) : String × OrderStatus × List OrderStateChange :=
  (order.orderId, order.status, order.history)

/-- Orders of one standing have one id. -/
theorem Order.orderId_eq {left right : Order} (same : left.standing = right.standing) :
    left.orderId = right.orderId := congrArg Prod.fst same

/-- They have one status. -/
theorem Order.status_eq {left right : Order} (same : left.standing = right.standing) :
    left.status = right.status := congrArg (fun standing => standing.2.1) same

/-- And they have one history. -/
theorem Order.history_eq {left right : Order} (same : left.standing = right.standing) :
    left.history = right.history := congrArg (fun standing => standing.2.2) same

/-- No order was moved. -/
def World.Still (before after : World) : Prop :=
  ∀ ref, (after.orders ref).standing = (before.orders ref).standing

/-- One order was moved by a valid transition, and no other. -/
structure World.Moves (before after : World) (ref : OrderRef) (change : OrderStateChange) : Prop where
  valid : change.toStatus ∈ validTransitions (before.orders ref).status
  source : change.fromStatus = (before.orders ref).status
  moved : (after.orders ref).standing = ((before.orders ref).moved change).standing
  others : ∀ other, other ≠ ref → (after.orders other).standing = (before.orders other).standing

namespace World

variable {before middle after : World} {ref : OrderRef} {change : OrderStateChange}

/-- Nothing moves where no order object was written. -/
theorem Still.of_orders (same : after.orders = before.orders) : Still before after := by
  intro ref
  rw [same]

/-- A move renames no order. -/
theorem Moves.orderId_eq (moves : Moves before after ref change) (other : OrderRef) :
    (after.orders other).orderId = (before.orders other).orderId := by
  -- The moved order keeps its id as every other order does.
  by_cases same : other = ref
  · have moved : (after.orders ref).orderId = ((before.orders ref).moved change).orderId :=
      Order.orderId_eq moves.moved
    rw [same, moved]
    rfl
  · exact Order.orderId_eq (moves.others other same)

/-- What moves nothing may follow a move. -/
theorem Moves.still (moves : Moves before middle ref change) (still : Still middle after) :
    Moves before after ref change where
  valid := moves.valid
  source := moves.source
  moved := (still ref).trans moves.moved
  others := fun other different => (still other).trans (moves.others other different)

/-- Writing a moved order moves it. -/
theorem moves_withOrder (world : World) (valid : change.toStatus ∈ validTransitions (world.orders ref).status)
    (source : change.fromStatus = (world.orders ref).status) :
    Moves world (world.withOrder ref ((world.orders ref).moved change)) ref change where
  valid := valid
  source := source
  moved := by rw [withOrder_self]
  others := fun other different => by rw [world.withOrder_other _ different]

/-- Writing an order with the same standing moves nothing. -/
theorem still_withOrder (world : World) {order : Order}
    (same : order.standing = (world.orders ref).standing) : Still world (world.withOrder ref order) := by
  intro other
  by_cases here : other = ref
  · rw [here, withOrder_self]
    exact same
  · rw [world.withOrder_other _ here]

end World

namespace OrderService

section Effects

variable (service : OrderService) (tenant : Option TenantContext) (ref : OrderRef)
  (newStatus : OrderStatus) (actor reason : String) (readings : LifecycleReadings) (world : World)

/-- A valid transition moves its order. -/
theorem afterMove_moves (valid : newStatus ∈ validTransitions (world.orders ref).status) :
    World.Moves world (afterMove ref newStatus actor reason readings world) ref
      (requested ref newStatus actor reason readings world) :=
  world.moves_withOrder valid rfl

/-- So does one that is stored and logged. -/
theorem afterChange_moves (valid : newStatus ∈ validTransitions (world.orders ref).status) :
    World.Moves world (service.afterChange ref newStatus actor reason readings world) ref
      (requested ref newStatus actor reason readings world) :=
  (afterMove_moves ref newStatus actor reason readings world valid).still (.of_orders rfl)

/-- The settlement captures a snapshot and moves nothing further. -/
theorem afterSettlement_moves (valid : newStatus ∈ validTransitions (world.orders ref).status)
    (split : CommissionSplit) (entry : LedgerEntry) :
    World.Moves world
      (service.afterSettlement ref newStatus actor reason readings world split entry) ref
      (requested ref newStatus actor reason readings world) := by
  have changed := service.afterChange_moves ref newStatus actor reason readings world valid
  exact changed.still (World.still_withOrder _ rfl)

/-- Neither does the refund workflow. -/
theorem afterRefund_moves (valid : .cancelled ∈ validTransitions (world.orders ref).status) :
    World.Moves world (service.afterRefund ref actor reason readings world) ref
      (requested ref .cancelled actor reason readings world) := by
  have changed := service.afterChange_moves ref .cancelled actor reason readings world valid
  unfold afterRefund
  split
  · exact changed.still (.of_orders rfl)
  · exact changed

/-- Nor the record of a cancellation. -/
theorem afterCancel_moves (valid : .cancelled ∈ validTransitions (world.orders ref).status)
    (refundRef : String) :
    World.Moves world (service.afterCancel ref actor reason readings world refundRef) ref
      (requested ref .cancelled actor reason readings world) :=
  (service.afterRefund_moves ref actor reason readings world valid).still (.of_orders rfl)

/-- Binding an order to a tenant moves nothing. -/
theorem afterRegister_still (stamp : Stamp) :
    World.Still world (service.afterRegister tenant ref actor world stamp) := by
  have bound : (bindTenant tenant (world.orders ref)).standing = (world.orders ref).standing := by
    unfold bindTenant
    split
    · rfl
    · cases tenant <;> rfl
  exact World.still_withOrder world bound

end Effects

variable {service : OrderService}

/-- A request to the order service moves nothing, or its order. -/
theorem Effect.history {world after : World} {request : Request}
    (effect : Effect service world request after) :
    World.Still world after ∨ ∃ change, World.Moves world after request.ref change := by
  cases effect with
  | none _ idle => exact Or.inl (.of_orders rfl)
  | registered tenant ref actor stamp allowed =>
    exact Or.inl (service.afterRegister_still tenant ref actor world stamp)
  | denied tenant ref call actor reason readings valid foreign =>
    exact Or.inr ⟨_, afterMove_moves ref call.target actor reason readings world valid⟩
  | changed tenant ref call actor reason readings valid allowed noRefund noSettlement =>
    exact Or.inr ⟨_, service.afterChange_moves ref call.target actor reason readings world valid⟩
  | settled tenant ref call actor reason readings valid allowed completed split calculated entry built =>
    exact Or.inr ⟨_, service.afterSettlement_moves ref .completed actor reason readings world valid
      split entry⟩
  | unrefunded tenant ref actor reason readings valid allowed configured error raised =>
    exact Or.inr ⟨_, service.afterRefund_moves ref actor reason readings world valid⟩
  | cancelled tenant ref actor reason readings valid allowed refundRef =>
    exact Or.inr ⟨_, service.afterCancel_moves ref actor reason readings world valid refundRef⟩
  | reversed tenant ref actor fraction reason entryStamp auditStamp snapshot captured rate reversal
      reversed entry built =>
    exact Or.inl (.of_orders rfl)

/-- The step of a request is what its operation leaves behind. -/
theorem step_eq (service : OrderService) (world : World) (request : Request) :
    service.step world request = stateAfter (service.attempt request) world := by
  -- Both sides bind the call under its tenant, and each leaves the world of either outcome.
  rcases request with ⟨tenant, ref, operation⟩
  cases operation with
  | register actor stamp => rfl
  | lifecycle call actor reason readings =>
    simp only [step, attempt, stateAfter, EStateM.run_bind]
    cases (service.lifecycle tenant ref actor reason readings call).run world <;> rfl
  | reverse actor fraction reason entryStamp auditStamp =>
    simp only [step, attempt, stateAfter, EStateM.run_bind]
    cases (service.recordCommissionReversal ref actor fraction reason entryStamp
      auditStamp).run world <;> rfl

end OrderService

namespace Shop

variable (service : OrderService) (shop : Shop)

/-- The shop after an order was moved by the fulfillment service, which kept an event. -/
def advanced (ref : OrderRef) (change : OrderStateChange) (event : FulfillmentEvent) : Shop where
  world := shop.world.withOrder ref ((shop.world.orders ref).moved change)
  events := shop.events ++ [event]

private theorem advance_outcome (ref : OrderRef) (newStatus : OrderStatus)
    (changedBy reason eventType details : String) (moment : DateTime) :
    (∃ change event, change.toStatus ∈ validTransitions (shop.world.orders ref).status ∧
      change.fromStatus = (shop.world.orders ref).status ∧
      (FulfillmentService.advance ref newStatus changedBy reason eventType details moment).run shop =
        .ok event (shop.advanced ref change event)) ∨
    ∃ error, (FulfillmentService.advance ref newStatus changedBy reason eventType details moment).run
      shop = .error error shop := by
  -- The state machine decides, and nothing after it can raise.
  by_cases valid : newStatus ∈ validTransitions (shop.world.orders ref).status
  · left
    refine ⟨(shop.world.orders ref).change newStatus changedBy reason moment,
      ⟨(shop.world.orders ref).orderId, eventType, details, moment.isoformat⟩, valid, rfl, ?_⟩
    simp only [FulfillmentService.advance, EStateM.run_bind, EStateM.run_get, Order.transitionTo,
      valid, if_true]
    rfl
  · right
    refine ⟨.valueError ((shop.world.orders ref).invalidTransition newStatus), ?_⟩
    simp [FulfillmentService.advance, Order.transitionTo, valid]

/-- A fulfillment call moves its order and returns, or raises and changes nothing. -/
theorem fulfillment_outcome (ref : OrderRef) (call : FulfillmentCall) :
    (∃ change event, change.toStatus ∈ validTransitions (shop.world.orders ref).status ∧
      change.fromStatus = (shop.world.orders ref).status ∧
      (attempt service (.fulfillment ref call)).run shop =
        .ok () (shop.advanced ref change event)) ∨
    ∃ error, (attempt service (.fulfillment ref call)).run shop = .error error shop := by
  -- Each call is one advance with its own texts, so the outcome is that of the advance.
  cases call with
  | confirmPayment paymentIntentId moment =>
    rcases shop.advance_outcome ref .confirmed "stripe_webhook"
      ("Payment confirmed: " ++ paymentIntentId) "payment_confirmed"
      ("Payment intent " ++ paymentIntentId ++ " confirmed") moment with
      ⟨change, event, valid, source, returned⟩ | ⟨error, raised⟩
    · refine Or.inl ⟨change, event, valid, source, ?_⟩
      rw [attempt, EStateM.run_bind, FulfillmentService.confirmPayment, returned]
      rfl
    · refine Or.inr ⟨error, ?_⟩
      rw [attempt, EStateM.run_bind, FulfillmentService.confirmPayment, raised]
  | startService assignedTo moment =>
    rcases shop.advance_outcome ref .inProgress "dispatch" ("Service assigned: " ++ assignedTo)
      "service_started" ("Assigned: " ++ assignedTo) moment with
      ⟨change, event, valid, source, returned⟩ | ⟨error, raised⟩
    · refine Or.inl ⟨change, event, valid, source, ?_⟩
      rw [attempt, EStateM.run_bind, FulfillmentService.startService, returned]
      rfl
    · refine Or.inr ⟨error, ?_⟩
      rw [attempt, EStateM.run_bind, FulfillmentService.startService, raised]

/-- Everything a request to either service can do. -/
inductive Effect : ShopRequest → Shop → Prop where
  | service (request : OrderService.Request) (world : World)
    (effect : OrderService.Effect service shop.world request world) :
    Effect (.service request) { shop with world }
  | refused (ref : OrderRef) (call : FulfillmentCall) : Effect (.fulfillment ref call) shop
  | advanced (ref : OrderRef) (call : FulfillmentCall) (change : OrderStateChange)
    (event : FulfillmentEvent)
    (valid : change.toStatus ∈ validTransitions (shop.world.orders ref).status)
    (source : change.fromStatus = (shop.world.orders ref).status) :
    Effect (.fulfillment ref call) (shop.advanced ref change event)

/-- A request to the order service leaves the events alone. -/
theorem step_service (request : OrderService.Request) :
    step service shop (.service request) = { shop with world := service.step shop.world request } := by
  rw [OrderService.step_eq]
  simp only [step, attempt, ShopM.ofService, stateAfter, EStateM.run]
  cases service.attempt request shop.world <;> rfl

/-- Every request has one of these effects. -/
theorem step_effect (request : ShopRequest) : Effect service shop request (step service shop request) := by
  -- A request of the shop is one of the service or of the fulfillment queue.
  cases request with
  | service request =>
    rw [step_service]
    exact .service request _ (OrderService.step_effect service shop.world request)
  | fulfillment ref call =>
    rcases fulfillment_outcome service shop ref call with
      ⟨change, event, valid, source, returned⟩ | ⟨error, raised⟩
    · rw [step, stateAfter_ok returned]
      exact .advanced ref call change event valid source
    · rw [step, stateAfter_error raised]
      exact .refused ref call

variable {service shop}

/-- A request moves nothing, or its order. -/
theorem Effect.history {after : Shop} {request : ShopRequest} (effect : Effect service shop request after) :
    World.Still shop.world after.world ∨
      ∃ change, World.Moves shop.world after.world request.ref change := by
  -- Every effect is a move of the order that the request names, or leaves all orders alone.
  cases effect with
  | service request world effect => exact effect.history
  | refused ref call => exact Or.inl (.of_orders rfl)
  | advanced ref call change event valid source =>
    exact Or.inr ⟨change, World.moves_withOrder _ valid source⟩

end Shop

end JolCommerce
