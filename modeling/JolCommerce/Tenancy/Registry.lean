import JolCommerce.Python.Dict
import JolCommerce.Tenancy.Tenant

/-! The tenant registry, and which registrations keep one schema per tenant. -/

namespace JolCommerce

open Python

/-- Known tenants by id and by slug; each one is filed under its own id and its own slug. -/
structure TenantRegistry where
  byId : Dict String Tenant
  bySlug : Dict String Tenant
  idKeyed : ∀ key tenant, byId.get? key = some tenant → tenant.tenantId = key
  slugKeyed : ∀ key tenant, bySlug.get? key = some tenant → tenant.slug = key

namespace TenantRegistry

/-- Filing a value under its own name keeps a dictionary keyed by that name. -/
theorem keyed_set {α : Type} {name : α → String} {dict : Dict String α}
    (keyed : ∀ key value, dict.get? key = some value → name value = key) (added : α) :
    ∀ key value, (dict.set (name added) added).get? key = some value → name value = key := by
  intro key value found
  rw [Dict.get?_set] at found
  split at found
  · rename_i same
    cases found
    exact same.symm
  · exact keyed key value found

/-- A registry without tenants. -/
def new : TenantRegistry where
  byId := Dict.empty
  bySlug := Dict.empty
  idKeyed := by intro key tenant found; simp at found
  slugKeyed := by intro key tenant found; simp at found

/-- `register(tenant)`: neither the id nor the slug may be taken, both compared as texts. -/
def register (registry : TenantRegistry) (tenant : Tenant) : Except PyError TenantRegistry :=
  -- The texts are compared as they stand, in whatever spelling they come.
  if (registry.byId.get? tenant.tenantId).isSome then
    .error (.valueError ("Tenant ID already registered: " ++ tenant.tenantId))
  else if (registry.bySlug.get? tenant.slug).isSome then
    .error (.valueError ("Tenant slug already registered: " ++ tenant.slug))
  else .ok {
    byId := registry.byId.set tenant.tenantId tenant
    bySlug := registry.bySlug.set tenant.slug tenant
    idKeyed := keyed_set registry.idKeyed tenant
    slugKeyed := keyed_set registry.slugKeyed tenant }

/-- `get_by_id(tenant_id)`. -/
def getById (registry : TenantRegistry) (tenantId : String) : Except PyError Tenant :=
  match registry.byId.get? tenantId with
  | some tenant => .ok tenant
  | none => .error (.tenantNotFound ("Unknown tenant ID: " ++ tenantId))

/-- `get_by_slug(slug)`. -/
def getBySlug (registry : TenantRegistry) (slug : String) : Except PyError Tenant :=
  match registry.bySlug.get? slug with
  | some tenant => .ok tenant
  | none => .error (.tenantNotFound ("Unknown tenant slug: " ++ slug))

/-- A lookup by id finds the tenant filed under it, or raises that there is none. -/
theorem getById_cases (registry : TenantRegistry) (tenantId : String) :
    (∃ tenant, registry.byId.get? tenantId = some tenant ∧ registry.getById tenantId = .ok tenant) ∨
    ∃ message, registry.getById tenantId = .error (.tenantNotFound message) := by
  unfold getById
  cases registry.byId.get? tenantId with
  | some tenant => exact Or.inl ⟨tenant, rfl, rfl⟩
  | none => exact Or.inr ⟨_, rfl⟩

/-- So does a lookup by slug. -/
theorem getBySlug_cases (registry : TenantRegistry) (slug : String) :
    (∃ tenant, registry.bySlug.get? slug = some tenant ∧ registry.getBySlug slug = .ok tenant) ∨
    ∃ message, registry.getBySlug slug = .error (.tenantNotFound message) := by
  unfold getBySlug
  cases registry.bySlug.get? slug with
  | some tenant => exact Or.inl ⟨tenant, rfl, rfl⟩
  | none => exact Or.inr ⟨_, rfl⟩

/-- The arguments of `new_tenant`, with the UUID that `uuid4` gives the call. -/
structure NewTenantCall where
  uuid : Uuid
  slug : String
  name : String
  vertical : String
  commissionRate : Option String := none
  branchId : String := ""

/-- The tenant `new_tenant` creates, `ValueError` for an unknown vertical. -/
def NewTenantCall.tenant (call : NewTenantCall) : Except PyError Tenant :=
  match TenantVertical.parse? call.vertical with
  | some vertical => .ok {
      tenantId := call.uuid.toStr
      slug := call.slug
      name := call.name
      vertical := vertical
      -- Without a rate the contract default stays in place.
      commissionRate := call.commissionRate.getD "0.10"
      branchId := call.branchId }
  -- `repr` of a text that needs no escapes.
  | none => .error (.valueError ("'" ++ call.vertical ++ "' is not a valid TenantVertical"))

/-- `new_tenant(...)`. -/
def newTenant (registry : TenantRegistry) (call : NewTenantCall) : Except PyError TenantRegistry := do
  let tenant ← call.tenant
  registry.register tenant

/-- All registered tenants. -/
def tenants (registry : TenantRegistry) : List Tenant := registry.byId.values

/-- The two calls that add tenants. -/
inductive Call where
  | register (tenant : Tenant)
  | newTenant (call : NewTenantCall)

/-- What a call does to the registry. -/
def perform (registry : TenantRegistry) : Call → Except PyError TenantRegistry
  | .register tenant => registry.register tenant
  | .newTenant call => registry.newTenant call

/-- The registry after a call; one that raises has written nothing. -/
def step (registry : TenantRegistry) (call : Call) : TenantRegistry :=
  match registry.perform call with
  | .ok after => after
  | .error _ => registry

/-- Calls one after another. -/
def run (registry : TenantRegistry) (calls : List Call) : TenantRegistry :=
  calls.foldl step registry

/-- Tenants are listed under their own ids. -/
theorem mem_tenants_iff (registry : TenantRegistry) (tenant : Tenant) :
    tenant ∈ registry.tenants ↔ registry.byId.get? tenant.tenantId = some tenant := by
  rw [tenants, Dict.mem_values_iff]
  constructor
  · intro filed
    obtain ⟨key, found⟩ := filed
    rw [registry.idKeyed key tenant found]
    exact found
  · exact fun found => ⟨_, found⟩

/-- The tenant a call would register. -/
def Call.tenant? : Call → Option Tenant
  | .register tenant => some tenant
  | .newTenant call => call.tenant.toOption

/-- The call is accepted: its tenant exists and neither its id nor its slug is taken. -/
def Accepts (registry : TenantRegistry) (call : Call) (tenant : Tenant) : Prop :=
  call.tenant? = some tenant ∧ registry.byId.get? tenant.tenantId = none ∧
    registry.bySlug.get? tenant.slug = none

/-- A registration succeeds exactly when neither name is taken, and files the tenant under its id. -/
theorem register_spec (registry : TenantRegistry) (tenant : Tenant) :
    (registry.byId.get? tenant.tenantId = none ∧ registry.bySlug.get? tenant.slug = none ∧
      ∃ after, registry.register tenant = .ok after ∧
        after.byId = registry.byId.set tenant.tenantId tenant) ∨
    (¬(registry.byId.get? tenant.tenantId = none ∧ registry.bySlug.get? tenant.slug = none) ∧
      ∃ error, registry.register tenant = .error error) := by
  -- The id is looked up before the slug, and nothing is written until both are free.
  unfold register
  cases idTaken : registry.byId.get? tenant.tenantId with
  | some other => exact Or.inr ⟨by simp, _, rfl⟩
  | none =>
    cases slugTaken : registry.bySlug.get? tenant.slug with
    | some other => exact Or.inr ⟨by simp, _, rfl⟩
    | none => exact Or.inl ⟨rfl, rfl, _, rfl, rfl⟩

/-- What a call does: it files one tenant under its id, or it raises and changes nothing. -/
def Effect (registry : TenantRegistry) (call : Call) : Prop :=
  (∃ tenant, registry.Accepts call tenant ∧
    (registry.step call).byId = registry.byId.set tenant.tenantId tenant) ∨
  ((∀ tenant, ¬registry.Accepts call tenant) ∧ registry.step call = registry)

private theorem effect_of_register {registry : TenantRegistry} {call : Call} {tenant : Tenant}
    (named : call.tenant? = some tenant)
    (performed : registry.perform call = registry.register tenant) : registry.Effect call := by
  -- A call that comes down to registering a tenant.
  rcases registry.register_spec tenant with ⟨idFree, slugFree, after, registered, filed⟩ |
    ⟨taken, error, raised⟩
  · refine Or.inl ⟨tenant, ⟨named, idFree, slugFree⟩, ?_⟩
    rw [step, performed, registered]
    exact filed
  · refine Or.inr ⟨?_, ?_⟩
    · intro other registers
      obtain ⟨alsoNamed, free⟩ := registers
      rw [named] at alsoNamed
      cases alsoNamed
      exact taken free
    · rw [step, performed, raised]

/-- Both calls end in `register`, unless the vertical is unknown. -/
theorem step_effect (registry : TenantRegistry) (call : Call) : registry.Effect call := by
  cases call with
  | register tenant => exact effect_of_register rfl rfl
  | newTenant arguments =>
    cases created : arguments.tenant with
    | ok tenant =>
      apply @effect_of_register registry _ tenant
      · simp [Call.tenant?, created, Except.toOption]
      · simp [perform, newTenant, created]
    -- An unknown vertical raises before there is a tenant to register.
    | error error =>
      refine Or.inr ⟨?_, ?_⟩
      · intro tenant registers
        obtain ⟨named, -⟩ := registers
        simp [Call.tenant?, created, Except.toOption] at named
      · simp [step, perform, newTenant, created]

/-- The tenants after a registration: the new one and those from before. -/
theorem mem_tenants_filed {registry after : TenantRegistry} {tenant : Tenant}
    (free : registry.byId.get? tenant.tenantId = none)
    (filed : after.byId = registry.byId.set tenant.tenantId tenant) (other : Tenant) :
    other ∈ after.tenants ↔ other = tenant ∨ other ∈ registry.tenants := by
  rw [mem_tenants_iff, mem_tenants_iff, filed, Dict.get?_set]
  -- The place under the new id was free, so that no tenant is replaced.
  by_cases same : other.tenantId = tenant.tenantId
  · rw [if_pos same, same, free]
    simp [eq_comm]
  · have different : other ≠ tenant := fun equal => same (by rw [equal])
    simp [same, different]

/-- No two registered tenants have ids that `uuid.UUID` accepts and one schema name. -/
def SchemasDistinct (registry : TenantRegistry) : Prop :=
  ∀ first ∈ registry.tenants, ∀ second ∈ registry.tenants, first ≠ second →
    ∀ name, first.schemaName = .ok name → second.schemaName ≠ .ok name

/-- The call adds no tenant whose id denotes the UUID of a tenant that is registered already. -/
def AddsNewUuid (registry : TenantRegistry) (call : Call) : Prop :=
  ∀ tenant, registry.Accepts call tenant → ∀ uuid, Uuid.parse? tenant.tenantId = some uuid →
    ∀ other ∈ registry.tenants, Uuid.parse? other.tenantId ≠ some uuid

/-- Every call of a run adds no UUID twice, each judged in the registry it is made on. -/
def AddsNewUuids : TenantRegistry → List Call → Prop
  | _, [] => True
  | registry, call :: rest => registry.AddsNewUuid call ∧ AddsNewUuids (registry.step call) rest

end TenantRegistry

/-- Two tenants have one schema name exactly when their ids denote one UUID. -/
theorem Tenant.schemaName_eq_iff (first second : Tenant) :
    (∃ name, first.schemaName = .ok name ∧ second.schemaName = .ok name) ↔
      ∃ uuid, Uuid.parse? first.tenantId = some uuid ∧ Uuid.parse? second.tenantId = some uuid := by
  unfold Tenant.schemaName
  constructor
  · intro shared
    obtain ⟨name, firstName, secondName⟩ := shared
    cases firstUuid : Uuid.parse? first.tenantId with
    | none => simp [firstUuid] at firstName
    | some left =>
      cases secondUuid : Uuid.parse? second.tenantId with
      | none => simp [secondUuid] at secondName
      | some right =>
        simp only [firstUuid, secondUuid, Except.ok.injEq] at firstName secondName
        -- The hexadecimal form after the common part determines the number.
        have digits : left.hex = right.hex :=
          String.append_right_inj _ |>.mp (firstName.trans secondName.symm)
        exact ⟨right, by rw [Uuid.hex_injective digits], rfl⟩
  · intro shared
    obtain ⟨uuid, firstUuid, secondUuid⟩ := shared
    exact ⟨"tenant_" ++ uuid.hex, by simp [firstUuid], by simp [secondUuid]⟩

namespace TenantRegistry

/-- Schemas are distinct exactly when ids that denote one UUID belong to one tenant. -/
theorem schemasDistinct_iff (registry : TenantRegistry) :
    registry.SchemasDistinct ↔ ∀ first ∈ registry.tenants, ∀ second ∈ registry.tenants,
      ∀ uuid, Uuid.parse? first.tenantId = some uuid → Uuid.parse? second.tenantId = some uuid →
        first = second := by
  -- A shared schema name and a shared UUID are one and the same.
  constructor
  · intro distinct first firstMember second secondMember uuid firstUuid secondUuid
    by_contra different
    obtain ⟨name, firstName, secondName⟩ :=
      (Tenant.schemaName_eq_iff first second).mpr ⟨uuid, firstUuid, secondUuid⟩
    exact distinct first firstMember second secondMember different name firstName secondName
  · intro unique first firstMember second secondMember different name firstName secondName
    obtain ⟨uuid, firstUuid, secondUuid⟩ :=
      (Tenant.schemaName_eq_iff first second).mp ⟨name, firstName, secondName⟩
    exact different (unique first firstMember second secondMember uuid firstUuid secondUuid)

/-- One call keeps schemas distinct exactly when the UUID it adds, if any, is new. -/
theorem step_schemasDistinct_iff (registry : TenantRegistry) (call : Call) :
    (registry.step call).SchemasDistinct ↔ registry.SchemasDistinct ∧ registry.AddsNewUuid call := by
  rcases registry.step_effect call with ⟨tenant, accepts, filed⟩ | ⟨rejects, same⟩
  · have members := mem_tenants_filed accepts.2.1 filed
    -- The call determines the tenant it adds.
    have added : registry.AddsNewUuid call ↔ ∀ uuid, Uuid.parse? tenant.tenantId = some uuid →
        ∀ other ∈ registry.tenants, Uuid.parse? other.tenantId ≠ some uuid := by
      constructor
      · exact fun adds => adds tenant accepts
      · intro fresh other alsoAccepts
        cases accepts.1.symm.trans alsoAccepts.1
        exact fresh
    rw [added, schemasDistinct_iff, schemasDistinct_iff]
    constructor
    · -- The new tenant is none of the old ones, so sharing a UUID with one would identify them.
      intro unique
      refine ⟨fun first firstMember second secondMember =>
        unique first ((members first).mpr (Or.inr firstMember)) second
          ((members second).mpr (Or.inr secondMember)), ?_⟩
      intro uuid denotes other otherMember shared
      have equal := unique tenant ((members tenant).mpr (Or.inl rfl)) other
        ((members other).mpr (Or.inr otherMember)) uuid denotes shared
      rw [← equal, mem_tenants_iff, accepts.2.1] at otherMember
      cases otherMember
    · -- Two tenants are both old, or one of them is the new one.
      intro both first firstMember second secondMember uuid firstUuid secondUuid
      obtain ⟨unique, fresh⟩ := both
      rcases (members first).mp firstMember with rfl | firstOld
      · rcases (members second).mp secondMember with rfl | secondOld
        · rfl
        · exact absurd secondUuid (fresh uuid firstUuid second secondOld)
      · rcases (members second).mp secondMember with rfl | secondOld
        · exact absurd firstUuid (fresh uuid secondUuid first firstOld)
        · exact unique first firstOld second secondOld uuid firstUuid secondUuid
  -- A call that raised added nobody.
  · rw [same]
    exact (and_iff_left fun tenant accepts => absurd accepts (rejects tenant)).symm

/-- A run keeps schemas distinct exactly when each of its calls adds a new UUID. -/
theorem run_schemasDistinct_iff (registry : TenantRegistry) (calls : List Call) :
    (registry.run calls).SchemasDistinct ↔ registry.SchemasDistinct ∧ registry.AddsNewUuids calls := by
  -- One call at a time; the condition on a later call speaks of the registry it is made on.
  induction calls generalizing registry with
  | nil => simp [run, AddsNewUuids]
  | cons call rest ih =>
    rw [AddsNewUuids, ← and_assoc, ← step_schemasDistinct_iff]
    exact ih (registry.step call)

/-- The registry a sequence of calls reaches gives every tenant a schema of its own exactly when
no accepted call names, in whatever spelling, the UUID of a tenant registered before it. -/
theorem registry_schemas_distinct_iff (calls : List Call) :
    (new.run calls).SchemasDistinct ↔ new.AddsNewUuids calls := by
  rw [run_schemasDistinct_iff]
  apply and_iff_right
  intro first member
  cases member

/-- A tenant registered under an id of its own choosing. -/
def sampleTenant (tenantId slug : String) : Tenant where
  tenantId := tenantId
  slug := slug
  name := "Parish"
  vertical := .faithCommunity

/-- Two spellings of one UUID register two tenants with one schema. -/
theorem registry_schemas_shared :
    ¬(new.run [.register (sampleTenant "6f1c9f0a-53c4-4d8e-9a57-0c2b7f1e8d3a" "st-anna"),
      .register (sampleTenant "6F1C9F0A-53C4-4D8E-9A57-0C2B7F1E8D3A" "st-boris")]).SchemasDistinct := by
  intro distinct
  refine distinct (sampleTenant "6f1c9f0a-53c4-4d8e-9a57-0c2b7f1e8d3a" "st-anna") ?_
    (sampleTenant "6F1C9F0A-53C4-4D8E-9A57-0C2B7F1E8D3A" "st-boris") ?_ ?_
    "tenant_6f1c9f0a53c44d8e9a570c2b7f1e8d3a" ?_ ?_
  all_goals decide +kernel

end TenantRegistry

end JolCommerce
