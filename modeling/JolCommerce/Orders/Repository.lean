import JolCommerce.Audit.AuditLog
import JolCommerce.Commissions.Ledger
import JolCommerce.Orders.Lifecycle
import JolCommerce.Python.Dict
import JolCommerce.Tenancy.Tenant

/-! The order objects of a process and the repository that refers to them by order id. -/

namespace JolCommerce

open Python

/-- A reference to an order object. -/
abbrev OrderRef := Nat

/-- What the order services share: the order objects, the repository, the ledger, the audit log. -/
structure World where
  /-- The order objects by reference; everyone who holds a reference sees the same object. -/
  orders : OrderRef → Order
  /-- The reference the next order object gets. -/
  nextRef : OrderRef
  /-- `OrderRepository._orders`. -/
  repository : Dict String OrderRef
  ledger : CommissionLedger
  audit : AuditLogger
  /-- The orders the refund callback was invoked for, in order of the calls. -/
  refundCalls : List OrderRef

namespace World

/-- A process with the given order objects in which nothing has happened yet. -/
def fresh (orders : OrderRef → Order) (nextRef : OrderRef) : World :=
  ⟨orders, nextRef, Dict.empty, CommissionLedger.new, AuditLoggerOf.new, []⟩

/-- The contents of one order object replaced. -/
def withOrder (world : World) (ref : OrderRef) (order : Order) : World :=
  { world with orders := Function.update world.orders ref order }

/-- `self._orders[order.order_id] = order`. -/
def stored (world : World) (ref : OrderRef) : World :=
  { world with repository := world.repository.set (world.orders ref).orderId ref }

/-- `self._audit.log(...)`. -/
def logged (world : World) (sha256 : String → String) (stamp : Stamp) (call : LogCall JsonObject) :
    World :=
  { world with audit := world.audit.log sha256 stamp call }

end World

/-- Code that may raise and leaves its effects behind. -/
abbrev ServiceM := EStateM PyError World

/-- Raise what a computation without effects raises. -/
def ServiceM.lift {α : Type} (result : Except PyError α) : ServiceM α :=
  match result with
  | .ok value => pure value
  | .error error => throw error

namespace OrderRepository

/-- `_check_tenant(tenant_id)`: no bound tenant, an unowned order and an own order all pass. -/
def checkTenant (tenant : Option TenantContext) (tenantId : String) : Except PyError Unit :=
  match tenant with
  | none => .ok ()
  | some context =>
    -- An empty tenant id is nobody's.
    if tenantId ≠ "" ∧ tenantId ≠ context.tenantId then
      .error (.crossTenantAccess "Cross-tenant order access denied (SOC2 CC6.2, Blueprint §2 RLS)")
    else .ok ()

/-- `_require_tenant_id()`. -/
def requireTenantId (tenant : Option TenantContext) : Except PyError String :=
  match tenant with
  | none => .error (.tenantNotFound "Order repository requires a bound tenant context")
  | some context => .ok context.tenantId

/-- `save(order)`. -/
def save (tenant : Option TenantContext) (ref : OrderRef) : ServiceM Unit := do
  let order := (← get).orders ref
  .lift (checkTenant tenant order.tenantId)
  modify fun world => world.stored ref

/-- `find_by_id(order_id)`. -/
def findById (tenant : Option TenantContext) (orderId : String) : ServiceM (Option OrderRef) := do
  let world ← get
  match world.repository.get? orderId with
  | none => return none
  | some ref =>
    -- A foreign order is an error here, not a missing order.
    .lift (checkTenant tenant (world.orders ref).tenantId)
    return some ref

/-- Common body of the queries: the stored orders of the bound tenant that satisfy a test. -/
def select (tenant : Option TenantContext) (test : Order → Bool) : ServiceM (List OrderRef) := do
  let tenantId ← .lift (requireTenantId tenant)
  let world ← get
  -- Unowned orders are not listed for anyone but a tenant without an id.
  return world.repository.values.filter fun ref =>
    (world.orders ref).tenantId = tenantId && test (world.orders ref)

/-- `find_by_customer(customer_id)`. -/
def findByCustomer (tenant : Option TenantContext) (customerId : String) :
    ServiceM (List OrderRef) :=
  select tenant fun order => order.customerId = customerId

/-- `find_by_status(status)`. -/
def findByStatus (tenant : Option TenantContext) (status : OrderStatus) :
    ServiceM (List OrderRef) :=
  select tenant fun order => order.status = status

/-- `changes_since(timestamp)`: texts are compared, and an order never moved has none. -/
def changesSince (tenant : Option TenantContext) (timestamp : String) :
    ServiceM (List OrderRef) :=
  select tenant fun order => order.updatedAt ≠ "" && timestamp < order.updatedAt

end OrderRepository

end JolCommerce
