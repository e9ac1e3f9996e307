import JolCommerce.Common

/-! Tenants, the schema each one is given, and the tenant bound to a request. -/

namespace JolCommerce

open Python

/-- The header in which API clients name their tenant. -/
def tenantHeader : String := "X-JOL-Tenant-ID"

/-- Business verticals served by the platform. -/
inductive TenantVertical where
  | faithCommunity
  | funeralHome
  | cemeteryCare
  deriving DecidableEq

/-- `TenantVertical(value)`, or nothing where it raises `ValueError`. -/
def TenantVertical.parse? (value : String) : Option TenantVertical :=
  if value = "faith_community" then some .faithCommunity
  else if value = "funeral_home" then some .funeralHome
  else if value = "cemetery_care" then some .cemeteryCare
  else none

/-- A registered tenant. -/
structure Tenant where
  tenantId : String
  slug : String
  name : String
  vertical : TenantVertical
  commissionRate : String := "0.10"
  branchId : String := ""
  isActive : Bool := true
  deriving DecidableEq

/-- The `schema_name` property: it reads the tenant id as a UUID and writes its digits. -/
def Tenant.schemaName (tenant : Tenant) : Except PyError String :=
  -- Different texts may denote one UUID and then name one schema.
  match Uuid.parse? tenant.tenantId with
  | some uuid => .ok ("tenant_" ++ uuid.hex)
  | none => .error (.valueError "badly formed hexadecimal UUID string")

/-- The tenant bound to a request, and how it was resolved. -/
structure TenantContext where
  tenant : Tenant
  resolvedFrom : String

/-- The `tenant_id` property. -/
def TenantContext.tenantId (context : TenantContext) : String := context.tenant.tenantId

end JolCommerce
