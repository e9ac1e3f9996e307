import JolCommerce.Orders.Repository

/-! The order service: lifecycle orchestration with auditing, commission settlement and refunds. -/

namespace JolCommerce

open Python

/-- What the clock, the UUID generator and the refund callback give during one lifecycle call. -/
structure LifecycleReadings where
  changedAt : DateTime
  changedStamp : Stamp
  entryStamp : Stamp
  settledStamp : Stamp
  cancelledStamp : Stamp
  /-- The refund reference the callback returns, or what it raises. -/
  refund : Except PyError String

/-- The collaborators of a service that do not change. -/
structure OrderService where
  sha256 : String → String
  commissionEngine : CommissionEngine
  /-- Whether a refund callback was injected. -/
  refundsConfigured : Bool

namespace OrderService

/-- `_bind_tenant(order)`: an unowned order becomes the bound tenant's. -/
def bindTenant (tenant : Option TenantContext) (order : Order) : Order :=
  if order.tenantId ≠ "" then order
  else match tenant with
    | none => order
    | some context =>
      { order with
        tenantId := context.tenantId
        branchId := if order.branchId = "" then context.tenant.branchId else order.branchId }

section Calls

variable (service : OrderService)

/-- The audit record of a registration. -/
def createdCall (order : Order) (actor : String) : LogCall JsonObject where
  actor := actor
  eventType := "order.created"
  outcome := "success"
  transactionRef := order.orderId
  details := some (.ofList [("tenant_id", .str order.tenantId),
    ("payment_mode", .str order.paymentMode.value), ("amount_cents", .int order.totalAmountCents)])

/-- The audit record of a status change. -/
def statusChangedCall (order : Order) (change : OrderStateChange) (actor : String) :
    LogCall JsonObject where
  actor := actor
  eventType := "order.status_changed"
  outcome := "success"
  transactionRef := order.orderId
  details := some (.ofList [("tenant_id", .str order.tenantId),
    ("from_status", .str change.fromStatus.value), ("to_status", .str change.toStatus.value)])

/-- The audit record of a settlement. -/
def settledCall (order : Order) (split : CommissionSplit) (actor : String) : LogCall JsonObject where
  actor := actor
  eventType := "commission.settled"
  outcome := "success"
  transactionRef := order.orderId
  details := some (.ofList [("tenant_id", .str order.tenantId), ("rate", .str split.rateStr),
    ("platform_fee_cents", .int split.platformFeeCents),
    ("tenant_settlement_cents", .int split.tenantSettlementCents)])

/-- The audit record of a cancellation. -/
def cancelledCall (order : Order) (refundRef actor reason : String) : LogCall JsonObject where
  actor := actor
  eventType := "order.cancelled"
  outcome := "success"
  transactionRef := order.orderId
  details := some (.ofList [("tenant_id", .str order.tenantId),
    ("refund_triggered", .bool (refundRef ≠ "")), ("refund_ref", .str refundRef),
    ("reason_present", .bool (reason ≠ ""))])

/-- The audit record of a reversal. -/
def reversedCall (order : Order) (reversal : CommissionSplit) (fraction actor reason : String) :
    LogCall JsonObject where
  actor := actor
  eventType := "commission.reversed"
  outcome := "success"
  transactionRef := order.orderId
  details := some (.ofList [("tenant_id", .str order.tenantId), ("fraction", .str fraction),
    ("reversed_fee_cents", .int reversal.platformFeeCents),
    ("reason_present", .bool (reason ≠ ""))])

/-- The ledger entry of a settlement. -/
def settlementFields (order : Order) (split : CommissionSplit) : LedgerArguments where
  tenantId := order.tenantId
  orderId := order.orderId
  currency := order.currency
  grossAmountCents := split.grossAmountCents
  platformFeeCents := split.platformFeeCents
  tenantSettlementCents := split.tenantSettlementCents
  rate := split.rateStr

/-- The ledger entry of a reversal: the amounts change sign, the snapshot's rate is kept. -/
def reversalFields (order : Order) (snapshot : CommissionSnapshot) (reversal : CommissionSplit) :
    LedgerArguments where
  tenantId := order.tenantId
  orderId := order.orderId
  currency := order.currency
  grossAmountCents := -reversal.grossAmountCents
  platformFeeCents := -reversal.platformFeeCents
  tenantSettlementCents := -reversal.tenantSettlementCents
  rate := snapshot.rate

/-- The snapshot captured from a split. -/
def snapshotOf (split : CommissionSplit) : CommissionSnapshot :=
  ⟨split.rateStr, split.platformFeeCents, split.tenantSettlementCents⟩

/-- The split a snapshot stands for. -/
def settledSplit (rate : Decimal) (snapshot : CommissionSnapshot) : CommissionSplit where
  rate := rate
  grossAmountCents := snapshot.platformFeeCents + snapshot.tenantSettlementCents
  platformFeeCents := snapshot.platformFeeCents
  tenantSettlementCents := snapshot.tenantSettlementCents

/-- `register(order, actor)`. -/
def register (tenant : Option TenantContext) (ref : OrderRef) (actor : String) (stamp : Stamp) :
    ServiceM Unit := do
  modify fun world => world.withOrder ref (bindTenant tenant (world.orders ref))
  -- An order that another tenant owns was not bound, and the save refuses it.
  OrderRepository.save tenant ref
  let order := (← get).orders ref
  modify fun world => world.logged service.sha256 stamp (createdCall order actor)

/-- `_settle_commission(order, actor)`: at the rate of the tenant that is bound. -/
def settleCommission (tenant : Option TenantContext) (ref : OrderRef) (actor : String)
    (readings : LifecycleReadings) : ServiceM Unit := do
  let order := (← get).orders ref
  let tenantRate := tenant.map fun context => context.tenant.commissionRate
  -- This may raise after the status was changed, saved and logged.
  let split ← .lift (service.commissionEngine.calculate order.totalAmountCents tenantRate)
  let order := { order with commissionSnapshot := some (snapshotOf split) }
  modify fun world => world.withOrder ref order
  -- The split adds up, so that the entry is balanced.
  let entry ← .lift (LedgerEntry.new (settlementFields order split) readings.entryStamp)
  modify fun world => { world with ledger := world.ledger.append entry }
  modify fun world => world.logged service.sha256 readings.settledStamp (settledCall order split actor)

/-- `transition(order, new_status, actor, reason)`: the order is changed before it is saved. -/
def transition (tenant : Option TenantContext) (ref : OrderRef) (newStatus : OrderStatus)
    (actor reason : String) (readings : LifecycleReadings) : ServiceM OrderStateChange := do
  let order := (← get).orders ref
  let (change, order) ← .lift (order.transitionTo newStatus actor reason readings.changedAt)
  modify fun world => world.withOrder ref order
  -- The tenant is checked only here, when the object has been changed.
  OrderRepository.save tenant ref
  modify fun world =>
    world.logged service.sha256 readings.changedStamp (statusChangedCall order change actor)
  if newStatus = .completed then service.settleCommission tenant ref actor readings
  return change

/-- `complete(order, actor, reason)`. -/
def complete (tenant : Option TenantContext) (ref : OrderRef) (actor reason : String)
    (readings : LifecycleReadings) : ServiceM OrderStateChange :=
  service.transition tenant ref .completed actor reason readings

/-- The refund workflow: the callback's reference, or the empty text without a callback. -/
def refund (ref : OrderRef) (readings : LifecycleReadings) : ServiceM String := do
  if service.refundsConfigured then
    -- The call is counted whether or not the callback returns.
    modify fun world => { world with refundCalls := world.refundCalls ++ [ref] }
    .lift readings.refund
  else return ""

/-- `cancel(order, actor, reason)`. -/
def cancel (tenant : Option TenantContext) (ref : OrderRef) (actor reason : String)
    (readings : LifecycleReadings) : ServiceM OrderStateChange := do
  let change ← service.transition tenant ref .cancelled actor reason readings
  -- The cancellation has been stored and logged when the callback runs.
  let refundRef ← service.refund ref readings
  let order := (← get).orders ref
  modify fun world => world.logged service.sha256 readings.cancelledStamp
    (cancelledCall order refundRef actor reason)
  return change

/-- `record_commission_reversal(order, actor, fraction, reason)`; no tenant is looked at. -/
def recordCommissionReversal (ref : OrderRef) (actor fraction reason : String)
    (entryStamp auditStamp : Stamp) : ServiceM LedgerEntry := do
  let order := (← get).orders ref
  match order.commissionSnapshot with
  | none => throw (.valueError ("Order " ++ order.orderId ++ " has no settled commission to reverse"))
  | some snapshot =>
    -- The settled split is rebuilt from the snapshot, not from the ledger.
    let rate ← .lift (readDecimal snapshot.rate)
    let reversal ← .lift (CommissionEngine.reverse (settledSplit rate snapshot) fraction)
    let entry ← .lift (LedgerEntry.new (reversalFields order snapshot reversal) entryStamp)
    modify fun world => { world with ledger := world.ledger.append entry }
    modify fun world => world.logged service.sha256 auditStamp
      (reversedCall order reversal fraction actor reason)
    return entry

end Calls

end OrderService

end JolCommerce
