import JolCommerce.Tenancy.Registry

/-! Registration as it writes the two indexes in turn, and that they always hold the same tenants. -/

namespace JolCommerce

open Python

namespace TenantRegistry

/-- The id index stays keyed by ids. -/
theorem keyedById (registry : TenantRegistry) (tenant : Tenant) : ∀ key value,
    (registry.byId.set tenant.tenantId tenant).get? key = some value → value.tenantId = key :=
  keyed_set registry.idKeyed tenant

/-- The slug index stays keyed by slugs. -/
theorem keyedBySlug (registry : TenantRegistry) (tenant : Tenant) : ∀ key value,
    (registry.bySlug.set tenant.slug tenant).get? key = some value → value.slug = key :=
  keyed_set registry.slugKeyed tenant

/-- `self._by_id[tenant.tenant_id] = tenant`. -/
def filedById (registry : TenantRegistry) (tenant : Tenant) : TenantRegistry where
  __ := registry
  byId := registry.byId.set tenant.tenantId tenant
  idKeyed := keyedById registry tenant

/-- `self._by_slug[tenant.slug] = tenant`. -/
def filedBySlug (registry : TenantRegistry) (tenant : Tenant) : TenantRegistry where
  __ := registry
  bySlug := registry.bySlug.set tenant.slug tenant
  slugKeyed := keyedBySlug registry tenant

namespace InPlace

/-- `register(tenant)`, which writes one index after the other. -/
def register (tenant : Tenant) : EStateM PyError TenantRegistry Tenant := do
  let registry ← get
  if (registry.byId.get? tenant.tenantId).isSome then
    throw (.valueError ("Tenant ID already registered: " ++ tenant.tenantId))
  if (registry.bySlug.get? tenant.slug).isSome then
    throw (.valueError ("Tenant slug already registered: " ++ tenant.slug))
  -- Both names are free before the first index is written.
  modify fun registry => registry.filedById tenant
  modify fun registry => registry.filedBySlug tenant
  return tenant

/-- `new_tenant(...)`: the tenant is built before it is registered. -/
def newTenant (call : NewTenantCall) : EStateM PyError TenantRegistry Tenant := do
  let tenant ← ofExcept call.tenant
  register tenant

/-- What a call does to the indexes. -/
def perform : Call → EStateM PyError TenantRegistry Tenant
  | .register tenant => register tenant
  | .newTenant call => newTenant call

/-- Calls one after another, whether they return or raise. -/
def run (registry : TenantRegistry) (calls : List Call) : TenantRegistry :=
  calls.foldl (fun registry call => stateAfter (perform call) registry) registry

end InPlace

/-- The writes in turn give what `register` gives at once, and an error leaves the indexes alone. -/
theorem run_register (registry : TenantRegistry) (tenant : Tenant) :
    (InPlace.register tenant).run registry =
      match registry.register tenant with
      | .ok after => .ok tenant after
      | .error error => .error error registry := by
  unfold InPlace.register TenantRegistry.register
  -- The two checks are made in one order on both sides.
  by_cases idTaken : (registry.byId.get? tenant.tenantId).isSome = true
  · simp [idTaken]
  · by_cases slugTaken : (registry.bySlug.get? tenant.slug).isSome = true
    · simp [idTaken, slugTaken]
    · simp [idTaken, slugTaken]
      rfl

/-- Every call is its pure form, whose error leaves the indexes alone. -/
theorem run_perform (registry : TenantRegistry) (call : Call) :
    (∃ tenant after, (InPlace.perform call).run registry = .ok tenant after ∧
      registry.perform call = .ok after) ∨
    ∃ error, (InPlace.perform call).run registry = .error error registry ∧
      registry.perform call = .error error := by
  cases call with
  | register tenant =>
    have same := run_register registry tenant
    cases registered : registry.register tenant with
    | ok after =>
      rw [registered] at same
      exact Or.inl ⟨tenant, after, same, registered⟩
    | error error =>
      rw [registered] at same
      exact Or.inr ⟨error, same, registered⟩
  | newTenant call =>
    cases created : call.tenant with
    | ok tenant =>
      have same := run_register registry tenant
      cases registered : registry.register tenant with
      | ok after =>
        rw [registered] at same
        refine Or.inl ⟨tenant, after, ?_, ?_⟩
        · simp [InPlace.perform, InPlace.newTenant, created, same]
        · simp [perform, newTenant, created, registered]
      | error error =>
        rw [registered] at same
        refine Or.inr ⟨error, ?_, ?_⟩
        · simp [InPlace.perform, InPlace.newTenant, created, same]
        · simp [perform, newTenant, created, registered]
    -- An unknown vertical raises before there is a tenant.
    | error error =>
      refine Or.inr ⟨error, ?_, ?_⟩
      · simp [InPlace.perform, InPlace.newTenant, created]
      · simp [perform, newTenant, created]

/-- A call leaves the registry that its pure form leaves. -/
theorem stateAfter_perform (registry : TenantRegistry) (call : Call) :
    stateAfter (InPlace.perform call) registry = registry.step call := by
  rcases run_perform registry call with ⟨tenant, after, returned, performed⟩ |
    ⟨error, raised, performed⟩
  · rw [stateAfter_ok returned, step, performed]
  · rw [stateAfter_error raised, step, performed]

/-- A raising call leaves both indexes as they were. -/
theorem perform_error {registry after : TenantRegistry} {call : Call} {error : PyError}
    (raised : (InPlace.perform call).run registry = .error error after) : after = registry := by
  rcases run_perform registry call with ⟨tenant, final, returned, -⟩ | ⟨other, stayed, -⟩
  · rw [returned] at raised
    cases raised
  · rw [stayed] at raised
    cases raised
    rfl

/-- A run of calls is the run of their pure forms. -/
theorem run_inPlace (registry : TenantRegistry) (calls : List Call) :
    InPlace.run registry calls = registry.run calls := by
  -- The calls agree one by one.
  have same : (fun registry call => stateAfter (InPlace.perform call) registry) = step := by
    funext registry call
    exact stateAfter_perform registry call
  rw [InPlace.run, same, run]

/-- Both indexes hold the same tenants, and no id and no slug occurs twice among them. -/
structure Consistent (registry : TenantRegistry) : Prop where
  same : ∀ tenant, tenant ∈ registry.byId.values ↔ tenant ∈ registry.bySlug.values
  ids : (registry.byId.values.map Tenant.tenantId).Nodup
  slugs : (registry.bySlug.values.map Tenant.slug).Nodup

/-- Indexes that hold the same tenants are consistent, since each is filed under its own names. -/
theorem consistent_of_same {registry : TenantRegistry}
    (same : ∀ tenant, tenant ∈ registry.byId.values ↔ tenant ∈ registry.bySlug.values) :
    Consistent registry :=
  ⟨same, Dict.nodup_map_values registry.idKeyed, Dict.nodup_map_values registry.slugKeyed⟩

/-- A registration that returns adds its tenant to both indexes. -/
theorem Consistent.register {registry after : TenantRegistry} (consistent : Consistent registry)
    {tenant : Tenant} (registered : registry.register tenant = .ok after) : Consistent after := by
  unfold TenantRegistry.register at registered
  by_cases idTaken : (registry.byId.get? tenant.tenantId).isSome = true
  · simp [idTaken] at registered
  · by_cases slugTaken : (registry.bySlug.get? tenant.slug).isSome = true
    · simp [idTaken, slugTaken] at registered
    · rw [if_neg idTaken, if_neg slugTaken] at registered
      cases registered
      -- Both places were free, so the tenant comes last in either index.
      apply consistent_of_same
      intro other
      simp only [Option.isSome_iff_ne_none, ne_eq, not_not] at idTaken slugTaken
      simp only [Dict.values_set_of_absent idTaken, Dict.values_set_of_absent slugTaken,
        List.mem_append, consistent.same other]

/-- Every call keeps the indexes consistent. -/
theorem Consistent.step {registry : TenantRegistry} (consistent : Consistent registry) (call : Call) :
    Consistent (registry.step call) := by
  unfold TenantRegistry.step
  cases performed : registry.perform call with
  | error error => exact consistent
  | ok after =>
    cases call with
    | register tenant => exact consistent.register performed
    | newTenant call =>
      obtain ⟨tenant, -, registered⟩ := bind_eq_ok performed
      exact consistent.register registered

/-- The indexes are consistent after every run of calls. -/
theorem consistent_run (calls : List Call) : Consistent (InPlace.run new calls) := by
  rw [run_inPlace, run]
  -- Empty indexes are, and every call keeps them so.
  have initial : Consistent new := consistent_of_same fun tenant => Iff.rfl
  generalize new = registry at initial ⊢
  induction calls generalizing registry with
  | nil => exact initial
  | cons call rest ih => exact ih _ (initial.step call)

end TenantRegistry

end JolCommerce
