import JolCommerce.Api.OrderBoard
import JolCommerce.Run.Purge

/-! The server answers as its board does, whatever else the order objects and the logs hold. -/

namespace JolCommerce

open Python RoutesOrder

/-- Where nothing is stored under an id there is no card, and else the card of what is stored. -/
theorem Shows.card {world : World} {board : OrderBoard} (shows : Shows world board)
    (orderId : String) :
    board orderId = (world.repository.get? orderId).map fun ref => (world.orders ref).card := by
  rw [← shows.cards, World.storedOrder, Option.map_map]
  rfl

/-- Between two worlds one object was rewritten under its old id, and has a given card then. -/
structure Rewrites (ref : OrderRef) (before after : World) (card : OrderCard) : Prop where
  kept : ∀ other, other ≠ ref → after.orders other = before.orders other
  repository : ∀ orderId, after.repository.get? orderId = before.repository.get? orderId
  nextRef : after.nextRef = before.nextRef
  orderId : (after.orders ref).orderId = (before.orders ref).orderId
  card : (after.orders ref).card = card

/-- The board follows a rewritten object. -/
theorem Shows.rewritten {before after : World} {board : OrderBoard} (shows : Shows before board)
    {ref : OrderRef} {orderId : String} (place : before.repository.get? orderId = some ref)
    {card : OrderCard} (rewrites : Rewrites ref before after card) :
    Shows after (Function.update board orderId (some card)) := by
  refine ⟨?_, ?_, ?_⟩
  · intro other found here
    rw [rewrites.repository] at here
    by_cases same : found = ref
    · rw [same, rewrites.orderId, ← same]
      exact shows.named other found here
    · rw [rewrites.kept found same]
      exact shows.named other found here
  · intro other found here
    rw [rewrites.repository] at here
    rw [rewrites.nextRef]
    exact shows.existing other found here
  · -- The object is stored under this id and no other.
    intro other
    rw [World.storedOrder, rewrites.repository]
    by_cases same : other = orderId
    · rw [same, Function.update_self, place, ← rewrites.card]
      rfl
    · rw [Function.update_of_ne same, shows.card]
      cases here : before.repository.get? other with
      | none => rfl
      | some found =>
        have apart : found ≠ ref := by
          intro equal
          rw [equal] at here
          exact same ((shows.named other ref here).symm.trans (shows.named orderId ref place))
        simp only [Option.map_some, rewrites.kept found apart]

/-- A new object puts up its card, in the place of whatever was stored under its id. -/
theorem Shows.created {before after : World} {board : OrderBoard} (shows : Shows before board)
    {order : Order} (creates : OrderService.Creates before after order) :
    Shows after (Function.update board order.orderId (some order.card)) := by
  have places : ∀ other, after.repository.get? other =
      if other = order.orderId then some before.nextRef else before.repository.get? other := by
    intro other
    rw [creates.repository, Dict.get?_set]
  -- What was stored before has a smaller reference, so that its object is as it was.
  have kept : ∀ other ref, before.repository.get? other = some ref →
      after.orders ref = before.orders ref := by
    intro other ref here
    rw [creates.orders, Function.update_of_ne (Nat.ne_of_lt (shows.existing other ref here))]
  refine ⟨?_, ?_, ?_⟩
  · intro other ref here
    rw [places] at here
    split at here
    · rename_i same
      obtain rfl := Option.some.inj here
      rw [creates.orders, Function.update_self, same]
    · rw [kept other ref here]
      exact shows.named other ref here
  · intro other ref here
    rw [places] at here
    rw [creates.nextRef]
    split at here
    · obtain rfl := Option.some.inj here
      exact Nat.lt_succ_self _
    · exact Nat.lt_succ_of_lt (shows.existing other ref here)
  · intro other
    rw [World.storedOrder, places]
    by_cases same : other = order.orderId
    · rw [if_pos same, same, Function.update_self, creates.orders]
      simp
    · rw [if_neg same, Function.update_of_ne same, shows.card]
      cases here : before.repository.get? other with
      | none => rfl
      | some ref => simp only [Option.map_some, kept other ref here]

namespace OrderService

/-- A call on an order rewrites its card as foreseen, and raises what is foreseen, if anything. -/
def Handles {α : Type} (ref : OrderRef) (world : World) (result : EStateM.Result PyError World α)
    (expected : OrderCard × Except PyError Unit) : Prop :=
  match result with
  | .ok _ after => expected.2 = .ok () ∧ Rewrites ref world after expected.1
  | .error error after => expected.2 = .error error ∧ Rewrites ref world after expected.1

section Calls

variable (service : OrderService) (context : TenantContext) {ref : OrderRef} {world : World}
  (actor reason : String) (readings : LifecycleReadings)

/-- A call that does nothing rewrites nothing. -/
theorem rewrites_refl (ref : OrderRef) (world : World) :
    Rewrites ref world world (world.orders ref).card :=
  ⟨fun _ _ => rfl, fun _ => rfl, rfl, rfl, rfl⟩

/-- What stores an order where it was stored already rewrites it. -/
theorem rewrites_of_stores {after : World} {card : OrderCard}
    (place : world.repository.get? (world.orders ref).orderId = some ref)
    (stores : StoresOrder ref world after) (nextRef : after.nextRef = world.nextRef)
    (orderId : (after.orders ref).orderId = (world.orders ref).orderId)
    (shown : (after.orders ref).card = card) : Rewrites ref world after card := by
  refine ⟨stores.kept, fun other => ?_, nextRef, orderId, shown⟩
  rw [stores.repository, Dict.get?_set]
  split
  · rename_i same
    rw [same, place]
  · rfl

variable (place : world.repository.get? (world.orders ref).orderId = some ref)

/-- A status that cannot follow is refused with its message. -/
theorem transition_refused (tenant : Option TenantContext) {target : OrderStatus}
    (invalid : target ∉ validTransitions (world.orders ref).status) :
    (service.transition tenant ref target actor reason readings).run world =
      .error (.valueError (OrderCard.refusal (world.orders ref).status target)) world := by
  have refuses : (world.orders ref).transitionTo target actor reason readings.changedAt =
      .error (.valueError ((world.orders ref).invalidTransition target)) := if_neg invalid
  simp only [transition, EStateM.run_bind, EStateM.run_get, refuses, ServiceM.run_lift_error]
  rfl

include place

/-- A stored status change rewrites the status. -/
theorem rewrites_afterChange (target : OrderStatus) :
    Rewrites ref world (service.afterChange ref target actor reason readings world)
      { (world.orders ref).card with status := target } := by
  have moved := service.afterChange_order ref target actor reason readings world
  have stores := service.afterChange_stores ref target actor reason readings world
  refine rewrites_of_stores place stores rfl ?_ ?_
  · rw [moved]
    rfl
  · rw [moved]
    rfl

/-- A status change rewrites the card as the board does. -/
theorem transition_handles (allowed : Allows (some context) (world.orders ref).tenantId)
    (target : OrderStatus) :
    Handles ref world
      ((service.transition (some context) ref target actor reason readings).run world)
      ((world.orders ref).card.advanced service context target) := by
  by_cases valid : target ∈ validTransitions (world.orders ref).status
  · have shown : target ∈ validTransitions (world.orders ref).card.status := valid
    have outcome := service.transition_outcome (some context) ref target actor reason readings world
    generalize (service.transition (some context) ref target actor reason readings).run world =
      result at outcome
    cases outcome with
    | refused invalid error => exact absurd valid invalid
    | denied _ foreign error => exact absurd allowed foreign
    | changed _ _ open_ =>
      rw [OrderCard.advanced, if_pos shown, if_neg open_]
      exact ⟨rfl, rewrites_afterChange service actor reason readings place target⟩
    | unsettled _ _ completed error failed =>
      have calculated : service.commissionEngine.calculate (world.orders ref).card.totalAmountCents
        (some context.tenant.commissionRate) = .error error := failed
      rw [OrderCard.advanced, if_pos shown, if_pos completed, calculated]
      exact ⟨rfl, rewrites_afterChange service actor reason readings place target⟩
    | settled _ _ completed split calculated entry built =>
      have succeeds : service.commissionEngine.calculate (world.orders ref).card.totalAmountCents
        (some context.tenant.commissionRate) = .ok split := calculated
      rw [OrderCard.advanced, if_pos shown, if_pos completed, succeeds]
      -- The snapshot is written into the object that has been moved.
      have moved := service.afterChange_order ref target actor reason readings world
      have stores :=
        service.afterSettlement_stores ref target actor reason readings world split entry
      have settled : (service.afterSettlement ref target actor reason readings world split
          entry).orders ref = { (world.orders ref).moved (requested ref target actor reason readings
            world) with commissionSnapshot := some (snapshotOf split) } := by
        rw [← moved]
        exact World.withOrder_self _ _ _
      refine ⟨rfl, rewrites_of_stores place stores rfl ?_ ?_⟩
      · rw [settled]
        rfl
      · rw [settled]
        rfl
  · have hidden : target ∉ validTransitions (world.orders ref).card.status := valid
    rw [transition_refused service actor reason readings (some context) valid, OrderCard.advanced,
      if_neg hidden]
    exact ⟨rfl, rewrites_refl ref world⟩

/-- So does a cancellation, whether or not the refund raises. -/
theorem cancel_handles (allowed : Allows (some context) (world.orders ref).tenantId) :
    Handles ref world ((service.cancel (some context) ref actor reason readings).run world)
      ((world.orders ref).card.cancelled service context readings.refund) := by
  by_cases valid : .cancelled ∈ validTransitions (world.orders ref).status
  · have advanced : (world.orders ref).card.advanced service context .cancelled =
        ({ (world.orders ref).card with status := .cancelled }, .ok ()) := by
      have shown : .cancelled ∈ validTransitions (world.orders ref).card.status := valid
      rw [OrderCard.advanced, if_pos shown]
      rfl
    have changed := rewrites_afterChange service actor reason readings place .cancelled
    have refunded : Rewrites ref world (service.afterRefund ref actor reason readings world)
        { (world.orders ref).card with status := .cancelled } := by
      -- Calling back adds to the list of calls only.
      unfold afterRefund
      split
      · exact ⟨changed.kept, changed.repository, changed.nextRef, changed.orderId, changed.card⟩
      · exact changed
    rw [OrderCard.cancelled, advanced]
    have outcome := service.cancel_outcome (some context) ref actor reason readings world
    generalize (service.cancel (some context) ref actor reason readings).run world = result
      at outcome
    cases outcome with
    | refused invalid error => exact absurd valid invalid
    | denied _ foreign error => exact absurd allowed foreign
    | unrefunded _ _ configured error raised =>
      refine ⟨?_, refunded⟩
      simp only [configured, if_true, raised]
      rfl
    | cancelled _ _ refundRef returned =>
      refine ⟨?_, refunded.kept, refunded.repository, refunded.nextRef, refunded.orderId,
        refunded.card⟩
      by_cases configured : service.refundsConfigured = true
      · simp only [configured, if_true, returned configured]
        rfl
      · simp only [configured, if_false, Bool.false_eq_true]
  · have hidden : .cancelled ∉ validTransitions (world.orders ref).card.status := valid
    have raised : (service.cancel (some context) ref actor reason readings).run world =
        .error (.valueError (OrderCard.refusal (world.orders ref).status .cancelled)) world := by
      rw [cancel, EStateM.run_bind,
        transition_refused service actor reason readings (some context) valid]
    rw [raised, OrderCard.cancelled, OrderCard.advanced, if_neg hidden]
    exact ⟨rfl, rewrites_refl ref world⟩

end Calls

end OrderService

/-- A call answers as the board does and leaves a world that shows the board left. -/
def Refines {world : World} (call : ServiceM OrderResponse)
    (expected : Except PyError OrderResponse × OrderBoard) : Prop :=
  resultOf call world = expected.1 ∧ Shows (stateAfter call world) expected.2

section Routes

variable {service : OrderService} {context : TenantContext} {world : World} {board : OrderBoard}

/-- A lookup changes nothing. -/
theorem getOrderOr404_run (orderId : String) :
    (getOrderOr404 (some context) orderId).run world =
      match world.repository.get? orderId with
      | none => .error (.httpException 404 "Order not found") world
      | some ref =>
        match OrderRepository.checkTenant (some context) (world.orders ref).tenantId with
        | .ok _ => .ok ref world
        | .error error => .error error world := by
  simp only [getOrderOr404, OrderRepository.findById, EStateM.run_bind, EStateM.run_get]
  cases world.repository.get? orderId with
  | none => rfl
  | some ref =>
    cases checked : OrderRepository.checkTenant (some context) (world.orders ref).tenantId with
    | ok _ =>
      simp only [checked]
      rfl
    | error error =>
      simp only [checked]
      rfl

/-- A route that looks an order up does with it what the board does with its card. -/
theorem lookup_refines (shows : Shows world board) {orderId : String}
    {body : OrderRef → ServiceM OrderResponse}
    {change : OrderCard → OrderCard × Except PyError Unit}
    (each : ∀ ref, world.repository.get? orderId = some ref →
      Allows (some context) (world.orders ref).tenantId →
      match (body ref).run world, change (world.orders ref).card with
      | .ok value after, (card, result) =>
        result = .ok () ∧ value = card.response ∧ Rewrites ref world after card
      | .error error after, (card, result) =>
        (∃ raised, result = .error raised ∧ error = conflictOf raised) ∧
          Rewrites ref world after card) :
    @Refines world (getOrderOr404 (some context) orderId >>= body)
      (board.handed context orderId change) := by
  have looked := @getOrderOr404_run context world orderId
  unfold Refines OrderBoard.handed OrderBoard.find resultOf stateAfter
  rw [EStateM.run_bind, looked, shows.card]
  cases place : world.repository.get? orderId with
  | none => exact ⟨rfl, shows⟩
  | some ref =>
    simp only [Option.map_some]
    have owner : (world.orders ref).card.tenantId = (world.orders ref).tenantId := rfl
    rw [owner]
    cases checked : OrderRepository.checkTenant (some context) (world.orders ref).tenantId with
    | error error => exact ⟨rfl, shows⟩
    | ok _ =>
      have acted := each ref place ((checkTenant_ok_iff _ _).mp checked)
      simp only [Except.map]
      cases ran : (body ref).run world with
      | ok value after =>
        rw [ran] at acted
        obtain ⟨result, same, rewrites⟩ := acted
        simp only [result, same]
        exact ⟨trivial, shows.rewritten place rewrites⟩
      | error error after =>
        rw [ran] at acted
        obtain ⟨⟨raised, result, same⟩, rewrites⟩ := acted
        simp only [result, same]
        exact ⟨trivial, shows.rewritten place rewrites⟩

/-- A lifecycle route shows the card its call leaves, or turns what was raised into a conflict. -/
theorem applied_refines (shows : Shows world board) {orderId : String}
    {call : OrderRef → ServiceM OrderStateChange}
    {change : OrderCard → OrderCard × Except PyError Unit}
    (each : ∀ ref, world.repository.get? (world.orders ref).orderId = some ref →
      Allows (some context) (world.orders ref).tenantId →
      OrderService.Handles ref world ((call ref).run world) (change (world.orders ref).card)) :
    @Refines world (applied (some context) orderId call) (board.handed context orderId change) := by
  refine lookup_refines shows fun ref place allowed => ?_
  have stored : world.repository.get? (world.orders ref).orderId = some ref := by
    rw [shows.named orderId ref place]
    exact place
  have handles := each ref stored allowed
  rw [EStateM.run_bind, run_conflicting]
  generalize change (world.orders ref).card = expected at handles ⊢
  cases ran : (call ref).run world with
  | ok value after =>
    rw [ran] at handles
    refine ⟨handles.1, ?_, handles.2⟩
    rw [← handles.2.card]
    exact toResponse_card _
  | error error after =>
    rw [ran] at handles
    cases error <;> exact ⟨⟨_, handles.1, rfl⟩, handles.2⟩

/-- A creation with a payment mode stores the new order and shows it. -/
theorem run_createOrder {request : CreateOrderRequest} {mode : PaymentMode}
    (read : readPaymentMode request.paymentMode = .ok mode) (readings : CreateReadings) :
    (createOrder service (some context) request readings).run world =
      .ok (toResponse (newOrder context mode request readings))
        (afterCreate service context mode request readings world) := by
  have own : Allows (some context) ((world.allocated
      (newOrder context mode request readings)).orders world.nextRef).tenantId := by
    intro bound same
    cases same
    exact Or.inr (by simp [World.allocated, World.withOrder, newOrder])
  have outcome := service.register_outcome (some context) world.nextRef request.customerId
    (world.allocated (newOrder context mode request readings)) readings.createdStamp
  generalize result : (service.register (some context) world.nextRef request.customerId
    readings.createdStamp).run (world.allocated (newOrder context mode request readings)) =
    registered at outcome
  cases outcome with
  | denied foreign error => exact absurd own foreign
  | registered allowed =>
    -- The response is read off the object as it is after the registration.
    have shown : (afterCreate service context mode request readings world).orders world.nextRef =
        newOrder context mode request readings := by
      rw [(OrderService.afterCreate_creates service context mode request readings world).orders,
        Function.update_self]
    have ends : (createOrder service (some context) request readings).run world =
        .ok (toResponse ((afterCreate service context mode request readings world).orders
          world.nextRef)) (afterCreate service context mode request readings world) := by
      simp only [createOrder, requireTenant, read, EStateM.run_bind, ServiceM.run_lift_ok,
        EStateM.run_get, EStateM.run_modify, result]
      rfl
    rw [ends, shown]

/-- A creation puts up the card of the new order. -/
theorem createOrder_refines (shows : Shows world board) (request : CreateOrderRequest)
    (readings : CreateReadings) :
    @Refines world (createOrder service (some context) request readings)
      (board.opened context request readings) := by
  unfold Refines OrderBoard.opened
  cases read : readPaymentMode request.paymentMode with
  | error error =>
    have raised : (createOrder service (some context) request readings).run world =
        .error error world := by
      simp [createOrder, requireTenant, read]
    rw [resultOf_error raised, stateAfter_error raised]
    exact ⟨rfl, shows⟩
  | ok mode =>
    have created := @run_createOrder service context world request mode read readings
    rw [resultOf_ok created, stateAfter_ok created, toResponse_card]
    have creates := OrderService.afterCreate_creates service context mode request readings world
    exact ⟨rfl, shows.created creates⟩

/-- Every request is served as the board serves it. -/
theorem serve_refines (service : OrderService) (shows : Shows world board)
    (request : OrderRequest) :
    service.answer world request = board.answer service request ∧
      Shows (service.afterRequest world request) (board.after service request) := by
  obtain ⟨context, route⟩ := request
  cases route with
  | createOrder create readings => exact createOrder_refines shows create readings
  | getOrder orderId =>
    refine lookup_refines shows fun ref place allowed => ?_
    exact ⟨rfl, toResponse_card _, OrderService.rewrites_refl ref world⟩
  | transitionOrder orderId change readings =>
    refine applied_refines shows fun ref stored allowed => ?_
    dsimp only [OrderCard.transitioned]
    cases readOrderStatus change.status with
    | error error => exact ⟨rfl, OrderService.rewrites_refl ref world⟩
    | ok status =>
      exact service.transition_handles context change.actor change.reason readings stored allowed
        status
  | completeOrder orderId change readings =>
    refine applied_refines shows fun ref stored allowed => ?_
    exact service.transition_handles context change.actor change.reason readings stored allowed
      .completed
  | cancelOrder orderId change readings =>
    refine applied_refines shows fun ref stored allowed => ?_
    exact service.cancel_handles context change.actor change.reason readings stored allowed

/-- So is a whole run of them. -/
theorem run_refines (service : OrderService) (shows : Shows world board)
    (requests : List OrderRequest) :
    Run.outputs service.afterRequest service.answer world requests =
        Run.outputs (OrderBoard.after service) (OrderBoard.answer service) board requests ∧
      Shows (requests.foldl service.afterRequest world)
        (requests.foldl (OrderBoard.after service) board) := by
  have each : ∀ world board request, Shows world board →
      service.answer world request = OrderBoard.answer service board request ∧
        Shows (service.afterRequest world request) (OrderBoard.after service board request) :=
    fun _ _ request shows => serve_refines service shows request
  exact Run.outputs_eq each shows requests

end Routes

/--
The order API is its board.

In every run all requests are answered as the board answers them, which knows of each order only what
the responses show. The other fields and the histories of the orders, the references, the ledger and
the audit log have no influence on any answer.
-/
theorem OrderService.served_as_board (service : OrderService) (orders : OrderRef → Order)
    (nextRef : OrderRef) (requests : List OrderRequest) :
    Run.outputs service.afterRequest service.answer (World.fresh orders nextRef) requests =
        Run.outputs (OrderBoard.after service) (OrderBoard.answer service) OrderBoard.empty requests ∧
      Shows (requests.foldl service.afterRequest (World.fresh orders nextRef))
        (requests.foldl (OrderBoard.after service) OrderBoard.empty) :=
  run_refines service (shows_fresh orders nextRef) requests

end JolCommerce
