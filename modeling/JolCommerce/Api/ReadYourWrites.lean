import JolCommerce.Api.BoardRefinement

/-! A lookup gives what was acknowledged last: the order API is a register for every order id. -/

namespace JolCommerce

open Python RoutesOrder

/-- The last response for an id, once one more answer was given. -/
def acknowledge (orderId : String) (last : Option OrderResponse)
    (answer : Except PyError OrderResponse) : Option OrderResponse :=
  match answer with
  | .ok response => if response.orderId = orderId then some response else last
  | .error _ => last

/-- The last response for an id among some answers. -/
def lastAcknowledged (answers : List (Except PyError OrderResponse)) (orderId : String) :
    Option OrderResponse := answers.foldl (acknowledge orderId) none

/-- What a tenant is told who looks up an id for which this was acknowledged last. -/
def told (context : TenantContext) (last : Option OrderResponse) : Except PyError OrderResponse :=
  match last with
  | none => .error (.httpException 404 "Order not found")
  | some response =>
    (OrderRepository.checkTenant (some context) response.tenantId).map fun _ => response

namespace OrderService

/-- The commission of the order under an id can be calculated. -/
def Settles (service : OrderService) (world : World) (context : TenantContext) (orderId : String) :
    Prop :=
  ∀ order, world.storedOrder orderId = some order →
    ∃ split, service.commissionEngine.calculate order.totalAmountCents
      (some context.tenant.commissionRate) = .ok split

/-- Nothing that runs after an order was moved fails: no settlement and no refund. -/
def Undisturbed (service : OrderService) (world : World) (request : OrderRequest) : Prop :=
  match request.route with
  | .createOrder .. => True
  | .getOrder _ => True
  | .transitionOrder orderId change _ =>
    readOrderStatus change.status = .ok .completed → service.Settles world request.context orderId
  | .completeOrder orderId _ _ => service.Settles world request.context orderId
  | .cancelOrder _ _ readings =>
    service.refundsConfigured = true → ∃ refundRef, readings.refund = .ok refundRef

end OrderService

namespace OrderCard

variable {service : OrderService} {context : TenantContext} {card : OrderCard}

/-- A call that raises leaves the card as it is, and no call renames it. -/
structure Sound (card : OrderCard) (result : OrderCard × Except PyError Unit) : Prop where
  kept : ∀ error, result.2 = .error error → result.1 = card
  named : result.1.orderId = card.orderId

/-- Where a commission can be calculated, if it has to be, a status change is sound. -/
theorem sound_advanced {target : OrderStatus}
    (settles : target = .completed → ∃ split, service.commissionEngine.calculate
      card.totalAmountCents (some context.tenant.commissionRate) = .ok split) :
    card.Sound (card.advanced service context target) := by
  unfold advanced
  split
  · split
    · rename_i completed
      obtain ⟨split, calculated⟩ := settles completed
      rw [calculated]
      exact ⟨fun error raised => (nomatch raised), rfl⟩
    · exact ⟨fun error raised => (nomatch raised), rfl⟩
  · exact ⟨fun _ _ => rfl, rfl⟩

/-- So is a cancellation whose refund does not raise. -/
theorem sound_cancelled {refund : Except PyError String}
    (returns : service.refundsConfigured = true → ∃ refundRef, refund = .ok refundRef) :
    card.Sound (card.cancelled service context refund) := by
  have advanced : card.Sound (card.advanced service context .cancelled) :=
    sound_advanced fun completed => (nomatch completed)
  unfold cancelled
  split
  · rename_i after value moved
    rw [moved] at advanced
    refine ⟨fun error raised => ?_, advanced.named⟩
    split at raised
    · rename_i configured
      obtain ⟨refundRef, rfl⟩ := returns configured
      cases raised
    · cases raised
  · exact advanced

end OrderCard

namespace OrderBoard

variable {board : OrderBoard}

/-- The board holds every card under its id, and shows for each id what was acknowledged last. -/
structure Acknowledged (answers : List (Except PyError OrderResponse)) (board : OrderBoard) :
    Prop where
  named : ∀ orderId card, board orderId = some card → card.orderId = orderId
  shown : ∀ orderId, (board orderId).map OrderCard.response = lastAcknowledged answers orderId

/-- One more answer is the last one for its id. -/
theorem lastAcknowledged_concat (answers : List (Except PyError OrderResponse))
    (answer : Except PyError OrderResponse) (orderId : String) :
    lastAcknowledged (answers ++ [answer]) orderId =
      acknowledge orderId (lastAcknowledged answers orderId) answer := by
  unfold lastAcknowledged
  rw [List.foldl_append]
  rfl

variable {answers : List (Except PyError OrderResponse)}

/-- A refused request acknowledges nothing. -/
theorem Acknowledged.refused (acknowledged : Acknowledged answers board) (error : PyError) :
    Acknowledged (answers ++ [.error error]) board := by
  refine ⟨acknowledged.named, fun orderId => ?_⟩
  rw [lastAcknowledged_concat]
  exact acknowledged.shown orderId

/-- A card that is put up and shown in the answer is acknowledged. -/
theorem Acknowledged.put (acknowledged : Acknowledged answers board) (card : OrderCard) :
    Acknowledged (answers ++ [.ok card.response])
      (Function.update board card.orderId (some card)) := by
  refine ⟨?_, ?_⟩
  · intro orderId other here
    by_cases same : orderId = card.orderId
    · rw [same, Function.update_self] at here
      obtain rfl := Option.some.inj here
      exact same.symm
    · rw [Function.update_of_ne same] at here
      exact acknowledged.named orderId other here
  · intro orderId
    rw [lastAcknowledged_concat]
    by_cases same : orderId = card.orderId
    · subst same
      rw [Function.update_self]
      exact (if_pos rfl).symm
    · have apart : card.response.orderId ≠ orderId := fun equal => same equal.symm
      rw [Function.update_of_ne same, acknowledged.shown]
      exact (if_neg apart).symm

/-- The card that is shown for an id is the one that is up there. -/
theorem find_ok {context : TenantContext} {orderId : String} {card : OrderCard}
    (found : board.find context orderId = .ok card) : board orderId = some card := by
  unfold find at found
  cases place : board orderId with
  | none =>
    rw [place] at found
    cases found
  | some other =>
    rw [place] at found
    dsimp only at found
    cases checked : OrderRepository.checkTenant (some context) other.tenantId with
    | error error =>
      rw [checked] at found
      cases found
    | ok _ =>
      rw [checked] at found
      exact congrArg some (Except.ok.inj found)

/-- A lookup shows the card of its id to those who may see it. -/
theorem answer_getOrder (service : OrderService) (board : OrderBoard) (context : TenantContext)
    (orderId : String) :
    OrderBoard.answer service board ⟨context, .getOrder orderId⟩ =
      told context ((board orderId).map OrderCard.response) := by
  show (board.handed context orderId fun card => (card, .ok ())).1 = _
  unfold OrderBoard.handed find told
  cases board orderId with
  | none => rfl
  | some card =>
    have owner : card.response.tenantId = card.tenantId := rfl
    dsimp only [Option.map_some]
    rw [owner]
    cases OrderRepository.checkTenant (some context) card.tenantId with
    | error error => rfl
    | ok _ => rfl

/-- A card handed to a sound call is acknowledged as the call leaves it. -/
theorem Acknowledged.handed (acknowledged : Acknowledged answers board) {context : TenantContext}
    {orderId : String} {call : OrderCard → OrderCard × Except PyError Unit}
    (sound : ∀ card, board orderId = some card → card.Sound (call card)) :
    Acknowledged (answers ++ [(board.handed context orderId call).1])
      (board.handed context orderId call).2 := by
  unfold OrderBoard.handed
  cases found : board.find context orderId with
  | error error => exact acknowledged.refused error
  | ok card =>
    have here := find_ok found
    have called := sound card here
    dsimp only
    generalize call card = result at called ⊢
    obtain ⟨after, outcome⟩ := result
    cases outcome with
    | error error =>
      -- The card that is put back is the one that was taken.
      have same : after = card := called.kept error rfl
      have unchanged : Function.update board orderId (some after) = board := by
        rw [same, ← here, Function.update_eq_self]
      dsimp only
      rw [unchanged]
      exact acknowledged.refused (conflictOf error)
    | ok _ =>
      have name : card.orderId = orderId := acknowledged.named orderId card here
      rw [← called.named.trans name]
      exact acknowledged.put after

/-- A request that nothing disturbs is acknowledged as it is answered. -/
theorem Acknowledged.served {service : OrderService} {world : World}
    (acknowledged : Acknowledged answers board) (shows : Shows world board) {request : OrderRequest}
    (undisturbed : service.Undisturbed world request) :
    Acknowledged (answers ++ [OrderBoard.answer service board request])
      (OrderBoard.after service board request) := by
  obtain ⟨context, route⟩ := request
  -- A card that is up shows an order whose commission can be calculated.
  have settles : ∀ orderId card, service.Settles world context orderId → board orderId = some card →
      ∃ split, service.commissionEngine.calculate card.totalAmountCents
        (some context.tenant.commissionRate) = .ok split := by
    intro orderId card settles here
    rw [← shows.cards] at here
    obtain ⟨order, stored, rfl⟩ := Option.map_eq_some_iff.mp here
    exact settles order stored
  cases route with
  | createOrder create readings =>
    unfold OrderBoard.answer OrderBoard.after
    simp only [serve, OrderBoard.opened]
    cases readPaymentMode create.paymentMode with
    | error error => exact acknowledged.refused error
    | ok mode => exact acknowledged.put (OrderCard.opened context mode create readings)
  | getOrder orderId =>
    exact acknowledged.handed fun card _ => ⟨fun _ _ => rfl, rfl⟩
  | transitionOrder orderId change readings =>
    refine acknowledged.handed fun card here => ?_
    dsimp only [OrderCard.transitioned]
    cases read : readOrderStatus change.status with
    | error error => exact ⟨fun _ _ => rfl, rfl⟩
    | ok target =>
      refine OrderCard.sound_advanced fun completed => settles orderId card ?_ here
      exact undisturbed (completed ▸ read)
  | completeOrder orderId change readings =>
    refine acknowledged.handed fun card here => ?_
    exact OrderCard.sound_advanced fun _ => settles orderId card undisturbed here
  | cancelOrder orderId change readings =>
    exact acknowledged.handed fun card _ => OrderCard.sound_cancelled undisturbed

/-- In a run that nothing disturbs the board shows what was acknowledged last. -/
theorem Acknowledged.run {service : OrderService} {requests : List OrderRequest} {world : World}
    (acknowledged : Acknowledged answers board) (shows : Shows world board)
    (undisturbed : Run.AllSteps service.afterRequest service.Undisturbed world requests) :
    Acknowledged (answers ++ Run.outputs service.afterRequest service.answer world requests)
      (requests.foldl (OrderBoard.after service) board) := by
  -- The answers of the server are those of the board, one request at a time.
  induction requests generalizing answers world board with
  | nil => simpa [Run.outputs] using acknowledged
  | cons request rest ih =>
    obtain ⟨here, later⟩ := undisturbed
    obtain ⟨same, follows⟩ := serve_refines service shows request
    have further := ih (acknowledged.served shows here) follows later
    rw [List.append_assoc, ← same] at further
    exact further

end OrderBoard

namespace OrderService

/--
Every tenant reads what was acknowledged last.

After a run in which no settlement and no refund fails, a lookup gives the last response that any
request to the order was answered with. Where that order is another tenant's it is denied, and where
no request was ever answered with the id there is none.
-/
theorem reads_last_acknowledged (service : OrderService) (orders : OrderRef → Order)
    (nextRef : OrderRef) {requests : List OrderRequest}
    (undisturbed : Run.AllSteps service.afterRequest service.Undisturbed
      (World.fresh orders nextRef) requests) (context : TenantContext) (orderId : String) :
    service.answer (requests.foldl service.afterRequest (World.fresh orders nextRef))
        ⟨context, .getOrder orderId⟩ =
      told context (lastAcknowledged
        (Run.outputs service.afterRequest service.answer (World.fresh orders nextRef) requests)
          orderId) := by
  have start : OrderBoard.Acknowledged [] OrderBoard.empty :=
    ⟨fun orderId card here => (nomatch here), fun _ => rfl⟩
  have initially := shows_fresh orders nextRef
  have acknowledged := start.run initially undisturbed
  have shows := (run_refines service initially requests).2
  generalize requests.foldl (OrderBoard.after service) OrderBoard.empty = board at *
  -- The board shows the last response, and the lookup shows what is on the board.
  rw [(serve_refines service shows _).1, ← List.nil_append (Run.outputs _ _ _ _),
    ← acknowledged.shown]
  exact OrderBoard.answer_getOrder service board context orderId

/-- An order is created, reserved and cancelled with a refund. -/
def sampleCancellation : List OrderRequest :=
  [⟨sampleContext "tenant-a" "0.10", .createOrder
      ⟨"customer", [], 10000, "EUR", "LT", "online_prepay", ""⟩
      ⟨Stamp.sample.uuid, Stamp.sample, Stamp.sample⟩⟩,
    ⟨sampleContext "tenant-a" "0.10", .transitionOrder (newOrderId Stamp.sample.uuid)
      ⟨"reserved", "clerk", ""⟩ (sampleReadings (.ok ""))⟩,
    ⟨sampleContext "tenant-a" "0.10", .cancelOrder (newOrderId Stamp.sample.uuid)
      ⟨"", "clerk", ""⟩ (sampleReadings (.ok "re_1"))⟩]

/-- Nothing disturbs these requests, so that the tenant reads the response to the last of them. -/
theorem reads_last_acknowledged_sample :
    sampleService.answer
        (sampleCancellation.foldl sampleService.afterRequest (World.fresh draftOrders 0))
        ⟨sampleContext "tenant-a" "0.10", .getOrder (newOrderId Stamp.sample.uuid)⟩ =
      told (sampleContext "tenant-a" "0.10") (lastAcknowledged
        (Run.outputs sampleService.afterRequest sampleService.answer (World.fresh draftOrders 0)
          sampleCancellation) (newOrderId Stamp.sample.uuid)) := by
  have open_ : ¬readOrderStatus "reserved" = .ok .completed := by
    intro read
    cases read
  have undisturbed : Run.AllSteps sampleService.afterRequest sampleService.Undisturbed
      (World.fresh draftOrders 0) sampleCancellation :=
    ⟨trivial, fun read => absurd read open_, fun _ => ⟨"re_1", rfl⟩, trivial⟩
  exact reads_last_acknowledged sampleService draftOrders 0 undisturbed
    (sampleContext "tenant-a" "0.10") (newOrderId Stamp.sample.uuid)

end OrderService

end JolCommerce
