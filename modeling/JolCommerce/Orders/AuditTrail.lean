import JolCommerce.Orders.History

/-! Whether the audit log tells the whole history of every order: only what one service moves. -/

namespace JolCommerce

open Python

/-- The two states of a transition, as the details of an audit entry give them. -/
def OrderStateChange.pair (change : OrderStateChange) : Option JsonValue × Option JsonValue :=
  (some (.str change.fromStatus.value), some (.str change.toStatus.value))

/-- The pairs of states in the `order.status_changed` entries of an order id, oldest first. -/
def AuditLogger.statusChanges (audit : AuditLogger) (orderId : String) :
    List (Option JsonValue × Option JsonValue) :=
  (audit.entries.filter fun entry =>
    entry.eventType = "order.status_changed" && entry.transactionRef = orderId).map fun entry =>
      (entry.details.get? "from_status", entry.details.get? "to_status")

namespace World

/-- The audit log tells the history of an order. -/
def TellsHistory (world : World) (ref : OrderRef) : Prop :=
  (world.orders ref).history.map OrderStateChange.pair =
    world.audit.statusChanges (world.orders ref).orderId

/-- Only a record of a status change adds to what the log tells. -/
theorem statusChanges_logged (world : World) (sha256 : String → String) (stamp : Stamp)
    {call : LogCall JsonObject} (other : call.eventType ≠ "order.status_changed") (orderId : String) :
    (world.logged sha256 stamp call).audit.statusChanges orderId =
      world.audit.statusChanges orderId := by
  simp [AuditLogger.statusChanges, logged, AuditLogger.log, AuditLoggerOf.append,
    AuditLoggerOf.entryFor, other]

/-- The record of a status change adds its pair under the id of its order. -/
theorem statusChanges_logged_change (world : World) (sha256 : String → String) (stamp : Stamp)
    (order : Order) (change : OrderStateChange) (actor orderId : String) :
    (world.logged sha256 stamp (OrderService.statusChangedCall order change actor)).audit.statusChanges
        orderId = world.audit.statusChanges orderId ++
      if order.orderId = orderId then [change.pair] else [] := by
  by_cases same : order.orderId = orderId
  · simp [AuditLogger.statusChanges, logged, AuditLogger.log, AuditLoggerOf.append,
      AuditLoggerOf.entryFor, OrderService.statusChangedCall, same, OrderStateChange.pair,
      SortedMap.ofList, SortedMap.get?_set_of_ne]
  · simp [AuditLogger.statusChanges, logged, AuditLogger.log, AuditLoggerOf.append,
      AuditLoggerOf.entryFor, OrderService.statusChangedCall, same]

/-- One order was moved and the log was told, or nothing of either. -/
inductive Told (before after : World) (ref : OrderRef) : Prop where
  | nothing (still : Still before after)
    (same : ∀ orderId, after.audit.statusChanges orderId = before.audit.statusChanges orderId)
  | change (change : OrderStateChange) (moves : Moves before after ref change)
    (logged : ∀ orderId, after.audit.statusChanges orderId = before.audit.statusChanges orderId ++
      if (before.orders ref).orderId = orderId then [change.pair] else [])

end World

namespace OrderService

section Effects

variable (service : OrderService) (tenant : Option TenantContext) (ref : OrderRef)
  (newStatus : OrderStatus) (actor reason : String) (readings : LifecycleReadings) (world : World)

/-- A status change adds its pair under the id of its order. -/
theorem statusChanges_afterChange (orderId : String) :
    (service.afterChange ref newStatus actor reason readings world).audit.statusChanges orderId =
      world.audit.statusChanges orderId ++ if (world.orders ref).orderId = orderId then
        [(requested ref newStatus actor reason readings world).pair] else [] :=
  World.statusChanges_logged_change _ _ _ _ _ _ _

/-- What is logged after it is of another kind: a settlement. -/
theorem statusChanges_afterSettlement (split : CommissionSplit) (entry : LedgerEntry)
    (orderId : String) :
    (service.afterSettlement ref newStatus actor reason readings world split entry).audit.statusChanges
        orderId =
      (service.afterChange ref newStatus actor reason readings world).audit.statusChanges orderId := by
  unfold afterSettlement
  exact World.statusChanges_logged _ _ _ (by simp [settledCall]) _

/-- The refund workflow logs nothing. -/
theorem statusChanges_afterRefund (orderId : String) :
    (service.afterRefund ref actor reason readings world).audit.statusChanges orderId =
      (service.afterChange ref .cancelled actor reason readings world).audit.statusChanges orderId := by
  unfold afterRefund
  split <;> rfl

/-- Nor is the record of a cancellation one of a status change. -/
theorem statusChanges_afterCancel (refundRef orderId : String) :
    (service.afterCancel ref actor reason readings world refundRef).audit.statusChanges orderId =
      (service.afterChange ref .cancelled actor reason readings world).audit.statusChanges orderId := by
  unfold afterCancel
  rw [World.statusChanges_logged _ _ _ (by simp [cancelledCall]), statusChanges_afterRefund]

/-- A lifecycle call that returned was allowed to touch its order. -/
theorem lifecycle_allowed {call : LifecycleCall} {change : OrderStateChange} {after : World}
    (returned : (service.lifecycle tenant ref actor reason readings call).run world =
      .ok change after) : Allows tenant (world.orders ref).tenantId := by
  have through : ∀ newStatus,
      (service.transition tenant ref newStatus actor reason readings).run world = .ok change after →
        Allows tenant (world.orders ref).tenantId := by
    -- Of the outcomes of a transition only those of an allowed order return.
    intro newStatus returned
    have outcome := service.transition_outcome tenant ref newStatus actor reason readings world
    rw [returned] at outcome
    cases outcome with
    | changed valid allowed open_ => exact allowed
    | settled valid allowed completed split calculated entry built => exact allowed
  cases call with
  | transition newStatus => exact through newStatus returned
  | complete => exact through .completed returned
  | cancel =>
    have outcome := service.cancel_outcome tenant ref actor reason readings world
    unfold lifecycle at returned
    simp only [returned] at outcome
    cases outcome with
    | cancelled valid allowed refundRef refunded => exact allowed

end Effects

/-- A request that returns moves its order and tells the log, or does nothing of either. -/
theorem told_of_returned {service : OrderService} {world after : World} {request : Request}
    (returned : (service.attempt request).run world = .ok () after) :
    World.Told world after request.ref := by
  have effect := step_effect service world request
  rw [step_eq, stateAfter_ok returned] at effect
  cases effect with
  | none _ idle => exact .nothing (.of_orders rfl) fun _ => rfl
  | registered tenant ref actor stamp allowed =>
    refine .nothing (service.afterRegister_still tenant ref actor world stamp) fun orderId => ?_
    exact World.statusChanges_logged _ _ _ (by simp [createdCall]) _
  | denied tenant ref call actor reason readings valid foreign =>
    -- An order of another tenant makes the call raise.
    simp only [attempt, EStateM.run_bind] at returned
    cases ran : (service.lifecycle tenant ref actor reason readings call).run world with
    | error error final =>
      rw [ran] at returned
      cases returned
    | ok change final =>
      exact absurd (service.lifecycle_allowed tenant ref actor reason readings world ran) foreign
  | changed tenant ref call actor reason readings valid allowed noRefund noSettlement =>
    exact .change _ (service.afterChange_moves ref call.target actor reason readings world valid)
      (service.statusChanges_afterChange ref call.target actor reason readings world)
  -- The settlement and the refund workflow write no change of status of their own.
  | settled tenant ref call actor reason readings valid allowed completed split calculated entry built =>
    refine .change _ (service.afterSettlement_moves ref .completed actor reason readings world valid
      split entry) fun orderId => ?_
    rw [statusChanges_afterSettlement]
    exact service.statusChanges_afterChange ref .completed actor reason readings world orderId
  | unrefunded tenant ref actor reason readings valid allowed configured error raised =>
    refine .change _ (service.afterRefund_moves ref actor reason readings world valid) fun orderId => ?_
    rw [statusChanges_afterRefund]
    exact service.statusChanges_afterChange ref .cancelled actor reason readings world orderId
  | cancelled tenant ref actor reason readings valid allowed refundRef =>
    refine .change _ (service.afterCancel_moves ref actor reason readings world valid refundRef)
      fun orderId => ?_
    rw [statusChanges_afterCancel]
    exact service.statusChanges_afterChange ref .cancelled actor reason readings world orderId
  | reversed tenant ref actor fraction reason entryStamp auditStamp snapshot captured rate reversal
      reversed entry built =>
    refine .nothing (.of_orders rfl) fun orderId => ?_
    exact World.statusChanges_logged _ _ _ (by simp [reversedCall]) _

end OrderService

namespace Shop

/-- The audit log tells the whole history of the orders in play. -/
def TellsHistories (inPlay : Set OrderRef) (shop : Shop) : Prop :=
  ∀ ref ∈ inPlay, shop.world.TellsHistory ref

/-- The orders in play have different ids. -/
def DistinctIds (inPlay : Set OrderRef) (shop : Shop) : Prop :=
  inPlay.InjOn fun ref => (shop.world.orders ref).orderId

variable {service : OrderService} {inPlay : Set OrderRef} {shop : Shop} {request : ShopRequest}

/-- No request renames an order. -/
theorem DistinctIds.step (distinct : DistinctIds inPlay shop) :
    DistinctIds inPlay (step service shop request) := by
  -- No request renames an order: it leaves the orders still, or moves one under its own name.
  have ids : ∀ ref, ((Shop.step service shop request).world.orders ref).orderId =
      (shop.world.orders ref).orderId := by
    intro ref
    rcases (step_effect service shop request).history with still | ⟨change, moves⟩
    · exact Order.orderId_eq (still ref)
    · exact moves.orderId_eq ref
  intro first firstIn second secondIn same
  simp only [ids] at same
  exact distinct firstIn secondIn same

/-- A log that is told what happens to an order goes on telling all histories. -/
theorem TellsHistories.told {after : World} {ref : OrderRef} (tells : TellsHistories inPlay shop)
    (distinct : DistinctIds inPlay shop) (playing : ref ∈ inPlay)
    (told : World.Told shop.world after ref) {events : List FulfillmentEvent} :
    TellsHistories inPlay ⟨after, events⟩ := by
  intro other otherIn
  have before := tells other otherIn
  unfold World.TellsHistory at before ⊢
  -- The history grows by what the log tells about the order, or neither grows.
  cases told with
  | nothing still same =>
    have history : (after.orders other).history = (shop.world.orders other).history :=
      Order.history_eq (still other)
    rw [same, Order.orderId_eq (still other), history]
    exact before
  | change change moves logged =>
    rw [logged, moves.orderId_eq, ← before]
    by_cases same : other = ref
    · have history : (after.orders ref).history = (shop.world.orders ref).history ++ [change] :=
        Order.history_eq moves.moved
      rw [same, history]
      simp
    · -- Another order has another id, so neither its history nor its entries grow.
      have history : (after.orders other).history = (shop.world.orders other).history :=
        Order.history_eq (moves.others other same)
      have different : (shop.world.orders ref).orderId ≠ (shop.world.orders other).orderId :=
        fun equal => same (distinct playing otherIn equal).symm
      rw [history]
      simp [different]

/-- A request goes to the order service. -/
def ToOrderService (request : ShopRequest) : Prop := ∃ call, request = .service call

/-- A request that returns keeps the histories told exactly when it goes to the order service. -/
theorem step_tellsHistories_iff (tells : TellsHistories inPlay shop)
    (distinct : DistinctIds inPlay shop) (playing : request.ref ∈ inPlay)
    (returns : Returns service shop request) :
    TellsHistories inPlay (step service shop request) ↔ ToOrderService request := by
  obtain ⟨after, returned⟩ := returns
  cases request with
  | service call =>
    refine iff_of_true ?_ ⟨call, rfl⟩
    rw [step_service, OrderService.step_eq]
    -- The order service returned as well, so that it told the log.
    have through : ∃ world, (service.attempt call).run shop.world = .ok () world := by
      simp only [attempt, ShopM.ofService, EStateM.run] at returned ⊢
      split at returned
      · rename_i world ran
        exact ⟨world, ran⟩
      · cases returned
    obtain ⟨world, ran⟩ := through
    rw [stateAfter_ok ran]
    exact tells.told distinct playing (OrderService.told_of_returned ran)
  | fulfillment ref call =>
    have other : ¬ToOrderService (.fulfillment ref call) := by
      intro toService
      obtain ⟨_, same⟩ := toService
      cases same
    refine iff_of_false ?_ other
    rcases fulfillment_outcome service shop ref call with
      ⟨change, event, valid, source, ran⟩ | ⟨error, raised⟩
    · -- The history of the order has grown and the log has not.
      rw [step, stateAfter_ok ran]
      intro told
      have before := tells ref playing
      have now := told ref playing
      simp only [World.TellsHistory, advanced, World.withOrder_self, World.withOrder_audit,
        Order.moved, List.map_append] at now before
      rw [← before] at now
      simp at now
    · rw [raised] at returned
      cases returned

/-- A request that returns, on an order in play. -/
def Proceeds (service : OrderService) (inPlay : Set OrderRef) (shop : Shop) (request : ShopRequest) :
    Prop :=
  request.ref ∈ inPlay ∧ Returns service shop request

/--
In a run of requests that all return, on orders with different ids that had no history and no audit
entries before, the audit log tells the whole history of every order, in each state reached, exactly
when no request goes to the fulfillment service.

The fulfillment service moves orders through the same state machine and writes no audit entry.
-/
theorem audit_tells_histories_iff (distinct : DistinctIds inPlay shop)
    (unmoved : ∀ ref ∈ inPlay, (shop.world.orders ref).history = [])
    (unlogged : shop.world.audit.entries = []) {requests : List ShopRequest}
    (proceeds : Run.AllSteps (step service) (Proceeds service inPlay) shop requests) :
    Run.Always (step service) (TellsHistories inPlay) shop requests ↔
      ∀ request ∈ requests, ToOrderService request := by
  have initial : TellsHistories inPlay shop := by
    intro ref playing
    simp [World.TellsHistory, AuditLogger.statusChanges, unmoved ref playing, unlogged]
  -- The ids stay different, and every step then decides on its own.
  have assumed : Run.AllSteps (step service) (fun shop request =>
      DistinctIds inPlay shop ∧ Proceeds service inPlay shop request) shop requests :=
    Run.allSteps_guarantee (step service)
      (fun _ _ distinct proceeds => ⟨⟨distinct, proceeds⟩, distinct.step⟩) distinct proceeds
  rw [Run.always_iff_allSteps (step service) (fun _ _ tells assumed =>
    step_tellsHistories_iff tells assumed.1 assumed.2.1 assumed.2.2) initial assumed]
  exact Run.allSteps_iff_forall (step service) ToOrderService shop requests

/-- A shop with draft orders in which nothing has happened yet. -/
def sampleShop : Shop := ⟨World.fresh OrderService.draftOrders 1, []⟩

/-- A transition of the first order, without a bound tenant. -/
def sampleMove (newStatus : OrderStatus) : ShopRequest :=
  .service ⟨none, 0, .lifecycle (.transition newStatus) "clerk" ""
    (OrderService.sampleReadings (.ok "re_1"))⟩

/-- A payment confirmation of the first order. -/
def sampleConfirmation : ShopRequest :=
  .fulfillment 0 (.confirmPayment "pi_1" Stamp.sample.moment)

private theorem sampleShop_distinct : DistinctIds {0} sampleShop := by
  intro first firstIn second secondIn _
  exact firstIn.trans secondIn.symm

/-- An order reserved and then cancelled through the order service has its history told. -/
theorem audit_tells_history_of_reserved :
    Run.Always (step OrderService.sampleService) (TellsHistories {0}) sampleShop
      [sampleMove .reserved, sampleMove .cancelled] := by
  have proceeds : Run.AllSteps (step OrderService.sampleService)
      (Proceeds OrderService.sampleService {0}) sampleShop
      [sampleMove .reserved, sampleMove .cancelled] :=
    ⟨⟨rfl, _, rfl⟩, ⟨rfl, _, rfl⟩, trivial⟩
  refine (audit_tells_histories_iff sampleShop_distinct (fun _ _ => rfl) rfl proceeds).mpr ?_
  simp [sampleMove, ToOrderService]

/-- A payment confirmed by the fulfillment service is missing from the audit log. -/
theorem audit_misses_confirmation :
    DistinctIds {0} sampleShop ∧
      (∀ ref ∈ ({0} : Set OrderRef), (sampleShop.world.orders ref).status = .draft ∧
        (sampleShop.world.orders ref).history = []) ∧
      Run.AllSteps (step OrderService.sampleService) (Proceeds OrderService.sampleService {0})
        sampleShop [sampleMove .reserved, sampleConfirmation] ∧
      ¬Run.Always (step OrderService.sampleService) (TellsHistories {0}) sampleShop
        [sampleMove .reserved, sampleConfirmation] := by
  refine ⟨sampleShop_distinct, fun _ _ => ⟨rfl, rfl⟩,
    ⟨⟨rfl, _, rfl⟩, ⟨rfl, _, rfl⟩, trivial⟩, fun always => ?_⟩
  have told : TellsHistories {0} _ := always.2.2
  have lengths := congrArg List.length (told 0 rfl)
  revert lengths
  decide +kernel

end Shop

end JolCommerce
