import JolCommerce.Orders.Atomicity
import JolCommerce.Run.Invariant

/-! Runs of service operations, each in its own tenant context, and all that one operation can do. -/

namespace JolCommerce

open Python

namespace OrderService

/-- An operation of the service on an order object. -/
inductive Operation where
  | register (actor : String) (stamp : Stamp)
  | lifecycle (call : LifecycleCall) (actor reason : String) (readings : LifecycleReadings)
  | reverse (actor fraction reason : String) (entryStamp auditStamp : Stamp)

/-- One operation with the order it is called on and the tenant bound during it. -/
structure Request where
  tenant : Option TenantContext
  ref : OrderRef
  operation : Operation

/-- The world after a request, whether it returned or raised. -/
def step (service : OrderService) (world : World) (request : Request) : World :=
  -- A reversal looks at no tenant, so the bound one is not passed on.
  match request.operation with
  | .register actor stamp =>
    stateAfter (service.register request.tenant request.ref actor stamp) world
  | .lifecycle call actor reason readings =>
    stateAfter (service.lifecycle request.tenant request.ref actor reason readings call) world
  | .reverse actor fraction reason entryStamp auditStamp =>
    stateAfter (service.recordCommissionReversal request.ref actor fraction reason entryStamp
      auditStamp) world

/-- Requests one after another. -/
def run (service : OrderService) (world : World) (requests : List Request) : World :=
  requests.foldl service.step world

/-- A lifecycle call that stored its order: no other order object changed, and the owner stayed. -/
structure StoresOrder (ref : OrderRef) (before after : World) : Prop where
  kept : ∀ other, other ≠ ref → after.orders other = before.orders other
  owner : (after.orders ref).tenantId = (before.orders ref).tenantId
  repository : after.repository = before.repository.set (before.orders ref).orderId ref

section Stores

variable (service : OrderService) (ref : OrderRef) (newStatus : OrderStatus)
  (actor reason : String) (readings : LifecycleReadings) (world : World)

/-- A status change stores the moved order under its id. -/
theorem afterChange_stores :
    StoresOrder ref world (service.afterChange ref newStatus actor reason readings world) where
  kept := fun other different => World.withOrder_other world _ different
  owner := by
    rw [afterChange_order]
    rfl
  repository := by
    simp [afterChange, afterMove, Order.moved]

/-- A settlement changes the order that was stored, nothing else about the repository. -/
theorem afterSettlement_stores (split : CommissionSplit) (entry : LedgerEntry) :
    StoresOrder ref world
      (service.afterSettlement ref newStatus actor reason readings world split entry) where
  kept := by
    intro other different
    simp [afterSettlement, World.withOrder, different, afterChange, afterMove]
  owner := by
    -- The object is written twice, and neither write changes the owner.
    simp [afterSettlement, World.withOrder, afterChange, afterMove, Order.moved]
  repository := (service.afterChange_stores ref newStatus actor reason readings world).repository

/-- The refund workflow does not touch orders or the repository. -/
theorem afterRefund_stores :
    StoresOrder ref world (service.afterRefund ref actor reason readings world) := by
  -- Calling back only adds to the list of calls.
  have changed := service.afterChange_stores ref .cancelled actor reason readings world
  unfold afterRefund
  split
  · exact ⟨changed.kept, changed.owner, changed.repository⟩
  · exact changed

/-- Neither does the record of a cancellation. -/
theorem afterCancel_stores (refundRef : String) :
    StoresOrder ref world (service.afterCancel ref actor reason readings world refundRef) := by
  have refunded := service.afterRefund_stores ref actor reason readings world
  exact ⟨refunded.kept, refunded.owner, refunded.repository⟩

end Stores

/-- Everything a request can do to the world. -/
inductive Effect (service : OrderService) (world : World) : Request → World → Prop where
  /-- It raised before it changed anything. -/
  | none (request : Request)
    (idle : ∀ call actor reason readings, request.operation = .lifecycle call actor reason readings →
      call.target ∉ validTransitions (world.orders request.ref).status) :
    Effect service world request world
  | registered (tenant : Option TenantContext) (ref : OrderRef) (actor : String) (stamp : Stamp)
    (allowed : Allows tenant (world.orders ref).tenantId) :
    Effect service world ⟨tenant, ref, .register actor stamp⟩
      (service.afterRegister tenant ref actor world stamp)
  /-- The order was moved before the repository refused it. -/
  | denied (tenant : Option TenantContext) (ref : OrderRef) (call : LifecycleCall)
    (actor reason : String) (readings : LifecycleReadings)
    (valid : call.target ∈ validTransitions (world.orders ref).status)
    (foreign : ¬Allows tenant (world.orders ref).tenantId) :
    Effect service world ⟨tenant, ref, .lifecycle call actor reason readings⟩
      (afterMove ref call.target actor reason readings world)
  /-- The order was moved, stored and logged; a completion was not settled. -/
  | changed (tenant : Option TenantContext) (ref : OrderRef) (call : LifecycleCall)
    (actor reason : String) (readings : LifecycleReadings)
    (valid : call.target ∈ validTransitions (world.orders ref).status)
    (allowed : Allows tenant (world.orders ref).tenantId) (noRefund : call ≠ .cancel)
    (noSettlement : call.target = .completed → ∃ error, service.commissionEngine.calculate
      (world.orders ref).totalAmountCents (boundRate tenant) = .error error) :
    Effect service world ⟨tenant, ref, .lifecycle call actor reason readings⟩
      (service.afterChange ref call.target actor reason readings world)
  | settled (tenant : Option TenantContext) (ref : OrderRef) (call : LifecycleCall)
    (actor reason : String) (readings : LifecycleReadings)
    (valid : .completed ∈ validTransitions (world.orders ref).status)
    (allowed : Allows tenant (world.orders ref).tenantId) (completed : call.target = .completed)
    (split : CommissionSplit)
    (calculated : service.commissionEngine.calculate (world.orders ref).totalAmountCents
      (boundRate tenant) = .ok split)
    (entry : LedgerEntry)
    (built : LedgerEntry.new (settlementFields (world.orders ref) split) readings.entryStamp =
      .ok entry) :
    Effect service world ⟨tenant, ref, .lifecycle call actor reason readings⟩
      (service.afterSettlement ref .completed actor reason readings world split entry)
  /-- The refund callback raised after the cancellation was stored. -/
  | unrefunded (tenant : Option TenantContext) (ref : OrderRef) (actor reason : String)
    (readings : LifecycleReadings)
    (valid : .cancelled ∈ validTransitions (world.orders ref).status)
    (allowed : Allows tenant (world.orders ref).tenantId)
    (configured : service.refundsConfigured = true) (error : PyError)
    (raised : readings.refund = .error error) :
    Effect service world ⟨tenant, ref, .lifecycle .cancel actor reason readings⟩
      (service.afterRefund ref actor reason readings world)
  | cancelled (tenant : Option TenantContext) (ref : OrderRef) (actor reason : String)
    (readings : LifecycleReadings)
    (valid : .cancelled ∈ validTransitions (world.orders ref).status)
    (allowed : Allows tenant (world.orders ref).tenantId) (refundRef : String) :
    Effect service world ⟨tenant, ref, .lifecycle .cancel actor reason readings⟩
      (service.afterCancel ref actor reason readings world refundRef)
  | reversed (tenant : Option TenantContext) (ref : OrderRef)
    (actor fraction reason : String) (entryStamp auditStamp : Stamp) (snapshot : CommissionSnapshot)
    (captured : (world.orders ref).commissionSnapshot = some snapshot) (rate : Decimal)
    (reversal : CommissionSplit)
    (reversed : CommissionEngine.reverse (settledSplit rate snapshot) fraction = .ok reversal)
    (entry : LedgerEntry)
    (built : LedgerEntry.new (reversalFields (world.orders ref) snapshot reversal) entryStamp =
      .ok entry) :
    Effect service world ⟨tenant, ref, .reverse actor fraction reason entryStamp auditStamp⟩
      (service.afterReversal ref actor reason world fraction auditStamp reversal entry)

/-- A transition call has one of these effects. -/
theorem transition_effect (service : OrderService) (world : World) (tenant : Option TenantContext)
    (ref : OrderRef) (call : LifecycleCall) (noRefund : call ≠ .cancel) (actor reason : String)
    (readings : LifecycleReadings) :
    Effect service world ⟨tenant, ref, .lifecycle call actor reason readings⟩
      (stateAfter (service.transition tenant ref call.target actor reason readings) world) := by
  -- One effect for each outcome; an unsettled completion is an order changed without settlement.
  have outcome := transition_outcome service tenant ref call.target actor reason readings world
  unfold stateAfter
  generalize (service.transition tenant ref call.target actor reason readings).run world = result
    at outcome
  cases outcome with
  | refused invalid error =>
    refine .none _ ?_
    intro other actor reason readings same
    cases same
    exact invalid
  | denied valid foreign error => exact .denied tenant ref call actor reason readings valid foreign
  | changed valid allowed open_ =>
    exact .changed tenant ref call actor reason readings valid allowed noRefund fun completed =>
      absurd completed open_
  | unsettled valid allowed completed error failed =>
    exact .changed tenant ref call actor reason readings valid allowed noRefund fun _ =>
      ⟨error, failed⟩
  | settled valid allowed completed split calculated entry built =>
    have effect := Effect.settled tenant ref call actor reason readings (completed ▸ valid) allowed
      completed split calculated entry built
    rw [completed]
    exact effect

/-- A cancellation has one of these effects. -/
theorem cancel_effect (service : OrderService) (world : World) (tenant : Option TenantContext)
    (ref : OrderRef) (actor reason : String) (readings : LifecycleReadings) :
    Effect service world ⟨tenant, ref, .lifecycle .cancel actor reason readings⟩
      (stateAfter (service.cancel tenant ref actor reason readings) world) := by
  -- The outcomes of a cancellation, read as effects.
  have outcome := cancel_outcome service tenant ref actor reason readings world
  unfold stateAfter
  generalize (service.cancel tenant ref actor reason readings).run world = result at outcome
  cases outcome with
  | refused invalid error =>
    refine .none _ ?_
    intro other actor reason readings same
    cases same
    exact invalid
  | denied valid foreign error =>
    exact .denied tenant ref .cancel actor reason readings valid foreign
  | unrefunded valid allowed configured error raised =>
    exact .unrefunded tenant ref actor reason readings valid allowed configured error raised
  | cancelled valid allowed refundRef refunded =>
    exact .cancelled tenant ref actor reason readings valid allowed refundRef

/-- Every request has one of these effects. -/
theorem step_effect (service : OrderService) (world : World) (request : Request) :
    Effect service world request (service.step world request) := by
  -- A register, a lifecycle call or a reversal: each has its outcomes already.
  rcases request with ⟨tenant, ref, operation⟩
  cases operation with
  | register actor stamp =>
    have outcome := register_outcome service tenant ref actor world stamp
    simp only [step, stateAfter]
    generalize (service.register tenant ref actor stamp).run world = result at outcome
    cases outcome with
    | denied foreign error =>
      refine .none _ ?_
      intro call actor reason readings same
      cases same
    | registered allowed => exact .registered tenant ref actor stamp allowed
  | lifecycle call actor reason readings =>
    -- Completing is a transition, and cancelling is one with the refund workflow after it.
    cases call with
    | transition newStatus =>
      exact transition_effect service world tenant ref (.transition newStatus) (by simp) actor
        reason readings
    | complete =>
      exact transition_effect service world tenant ref .complete (by simp) actor reason readings
    | cancel => exact cancel_effect service world tenant ref actor reason readings
  | reverse actor fraction reason entryStamp auditStamp =>
    have outcome := reversal_outcome service ref actor reason world fraction entryStamp auditStamp
    simp only [step, stateAfter]
    generalize (service.recordCommissionReversal ref actor fraction reason entryStamp
      auditStamp).run world = result at outcome
    cases outcome with
    -- A refused reversal changes nothing, and is no lifecycle call.
    | refused error =>
      refine .none _ ?_
      intro call actor reason readings same
      cases same
    | recorded snapshot captured rate reversal reversed entry built =>
      exact .reversed tenant ref actor fraction reason entryStamp auditStamp snapshot captured rate
        reversal reversed entry built

end OrderService

end JolCommerce
