import JolCommerce.Python.Fields
import JolCommerce.Tenancy.RegistryInPlace

/-! The middleware that binds a tenant to a request, and how far host and header decide which one. -/

namespace JolCommerce

open Python

namespace TenantResolutionMiddleware

/-- The apex domain of the platform. -/
def apexDomain : String := "journeyoflife.org"

/-- What follows the label of a tenant in a host. -/
def apexEnding : List Char := ("." ++ apexDomain).toList

/-- Paths that are served without a tenant. -/
def exemptPathPrefixes : List String := ["/health", "/metrics", "/api/v1/payments/webhooks"]

/-- What the middleware reads of a request. -/
structure Request where
  path : String
  /-- `request.url.hostname`. -/
  hostname : Option String
  /-- `request.headers.get(name)`. -/
  header : String → Option String

/-- The host of a request, empty where there is none. -/
def Request.host (request : Request) : List Char := (request.hostname.getD "").toList

/-- `_subdomain_slug(request)`: the label before the apex domain, if any. -/
def subdomainSlug (request : Request) : String :=
  if endsWith apexEnding request.host then
    String.ofList (lastField '.' (removeSuffix apexEnding request.host))
  else ""

/-- The tenant named by the subdomain or else by the header, and which of them named it. -/
def lookUp (registry : TenantRegistry) (request : Request) : Except PyError TenantContext := do
  let slug := subdomainSlug request
  if slug ≠ "" then
    let tenant ← registry.getBySlug slug
    return ⟨tenant, "subdomain"⟩
  else
    -- The header is looked at only where the host names nobody.
    let tenantId := (request.header tenantHeader).getD ""
    if tenantId = "" then
      throw (.tenantNotFound ("Tenant not resolvable: no tenant subdomain and " ++
        "no " ++ tenantHeader ++ " header provided"))
    let tenant ← registry.getById tenantId
    return ⟨tenant, "header"⟩

/-- `_resolve(request)`. -/
def resolve (registry : TenantRegistry) (request : Request) : Except PyError TenantContext := do
  let context ← lookUp registry request
  if !context.tenant.isActive then
    throw (.tenantNotFound ("Tenant is deactivated: " ++ context.tenant.slug))
  return context

/-- A host names a label where the apex domain follows it and nothing but labels comes before. -/
def NamesLabel (host : List Char) (label : String) : Prop :=
  ∃ before, host = before ++ label.toList ++ apexEnding ∧ FieldStart '.' before ∧
    '.' ∉ label.toList

/-- The slug of a host that names a label is the label. -/
theorem subdomainSlug_of_namesLabel {request : Request} {label : String}
    (names : NamesLabel request.host label) : subdomainSlug request = label := by
  obtain ⟨before, host, start, whole⟩ := names
  have ends : endsWith apexEnding request.host = true := (endsWith_iff _ _).mpr ⟨_, host⟩
  rw [subdomainSlug, if_pos ends, host, removeSuffix_append, lastField_eq start whole,
    String.ofList_toList]

/-- A host that gives a slug names it. -/
theorem namesLabel_subdomainSlug {request : Request} (given : subdomainSlug request ≠ "") :
    NamesLabel request.host (subdomainSlug request) := by
  unfold subdomainSlug at given ⊢
  by_cases ends : endsWith apexEnding request.host = true
  · obtain ⟨front, host⟩ := (endsWith_iff _ _).mp ends
    rw [if_pos ends, host, removeSuffix_append]
    -- What precedes the apex domain ends in its last label.
    obtain ⟨before, cut, start, whole⟩ := exists_lastField '.' front
    refine ⟨before, ?_, start, ?_⟩
    · rw [String.toList_ofList, ← cut]
    · rw [String.toList_ofList]
      exact whole
  · rw [if_neg ends] at given
    exact absurd rfl given

section Outcomes

variable (registry : TenantRegistry) (request : Request)

/-- A lookup finds the tenant of the slug, without a slug that of the header, or raises. -/
theorem lookUp_cases :
    (subdomainSlug request ≠ "" ∧ ∃ tenant,
      registry.bySlug.get? (subdomainSlug request) = some tenant ∧
      lookUp registry request = .ok ⟨tenant, "subdomain"⟩) ∨
    (subdomainSlug request = "" ∧ ∃ tenantId tenant,
      request.header tenantHeader = some tenantId ∧ registry.byId.get? tenantId = some tenant ∧
      lookUp registry request = .ok ⟨tenant, "header"⟩) ∨
    ∃ message, lookUp registry request = .error (.tenantNotFound message) := by
  unfold lookUp
  by_cases unnamed : subdomainSlug request = ""
  · simp only [unnamed, ne_eq, not_true_eq_false, if_false, false_and, false_or, true_and]
    cases sent : request.header tenantHeader with
    | none => exact Or.inr ⟨_, rfl⟩
    | some tenantId =>
      simp only [Option.getD_some]
      -- An empty header counts as none.
      by_cases empty : tenantId = ""
      · exact Or.inr ⟨_, by rw [if_pos empty]; rfl⟩
      · rcases registry.getById_cases tenantId with ⟨tenant, filed, found⟩ | ⟨message, raised⟩
        · refine Or.inl ⟨tenantId, tenant, rfl, filed, ?_⟩
          simp [empty, found]
        · refine Or.inr ⟨message, ?_⟩
          simp [empty, raised]
  · rcases registry.getBySlug_cases (subdomainSlug request) with
      ⟨tenant, filed, found⟩ | ⟨message, raised⟩
    · refine Or.inl ⟨unnamed, tenant, filed, ?_⟩
      simp [unnamed, found]
    · refine Or.inr (Or.inr ⟨message, ?_⟩)
      simp [unnamed, raised]

/-- A request is resolved to an active tenant that was looked up, or it is refused. -/
theorem resolve_cases :
    (∃ context, lookUp registry request = .ok context ∧ context.tenant.isActive = true ∧
      resolve registry request = .ok context) ∨
    ∃ message, resolve registry request = .error (.tenantNotFound message) := by
  unfold resolve
  rcases lookUp_cases registry request with
    ⟨-, tenant, -, found⟩ | ⟨-, tenantId, tenant, -, -, found⟩ | ⟨message, raised⟩
  · by_cases active : tenant.isActive = true
    · exact Or.inl ⟨_, found, active, by simp [found, active]⟩
    · exact Or.inr ⟨_, by simp [found, active]; rfl⟩
  · by_cases active : tenant.isActive = true
    · exact Or.inl ⟨_, found, active, by simp [found, active]⟩
    · exact Or.inr ⟨_, by simp [found, active]; rfl⟩
  · exact Or.inr ⟨message, by simp [raised]⟩

end Outcomes

/-- A named label decides alone: the header is not read. -/
theorem resolve_named {registry : TenantRegistry} {first second : Request}
    (host : second.host = first.host) (named : subdomainSlug first ≠ "") :
    resolve registry second = resolve registry first := by
  -- Both requests have one slug.
  have slug : subdomainSlug second = subdomainSlug first := by
    unfold subdomainSlug
    rw [host]
  have found : lookUp registry second = lookUp registry first := by
    unfold lookUp
    simp only [slug, if_pos named]
  rw [resolve, resolve, found]

/-- What resolution may answer: active registered tenants, each named by host or else by header. -/
structure ResolvesSafely (registry : TenantRegistry) (request : Request) : Prop where
  registered : ∀ context, resolve registry request = .ok context →
    context.tenant ∈ registry.tenants ∧ context.tenant.isActive = true
  byLabel : ∀ label, NamesLabel request.host label → label ≠ "" →
    (∀ other, Request.host other = request.host →
      resolve registry other = resolve registry request) ∧
    ∀ context, resolve registry request = .ok context → context.tenant.slug = label
  byHeader : (∀ label, NamesLabel request.host label → label = "") →
    ∀ context, resolve registry request = .ok context →
      request.header tenantHeader = some context.tenant.tenantId
  otherwise : ∀ error, resolve registry request = .error error →
    ∃ message, error = .tenantNotFound message

/-- Over consistent indexes every request is resolved safely. -/
theorem resolvesSafely {registry : TenantRegistry} (consistent : registry.Consistent)
    (request : Request) : ResolvesSafely registry request := by
  -- A context that was returned was looked up in one of the two indexes.
  have returned : ∀ context, resolve registry request = .ok context →
      lookUp registry request = .ok context ∧ context.tenant.isActive = true := by
    intro context resolved
    rcases resolve_cases registry request with ⟨found, looked, active, same⟩ | ⟨message, raised⟩
    · rw [same] at resolved
      cases resolved
      exact ⟨looked, active⟩
    · rw [raised] at resolved
      cases resolved
  have origin : ∀ context, lookUp registry request = .ok context →
      (subdomainSlug request ≠ "" ∧
        registry.bySlug.get? (subdomainSlug request) = some context.tenant) ∨
      (subdomainSlug request = "" ∧ ∃ tenantId, request.header tenantHeader = some tenantId ∧
        registry.byId.get? tenantId = some context.tenant) := by
    intro context looked
    rcases lookUp_cases registry request with ⟨named, tenant, filed, found⟩ |
      ⟨unnamed, tenantId, tenant, sent, filed, found⟩ | ⟨message, raised⟩
    · rw [found] at looked
      cases looked
      exact Or.inl ⟨named, filed⟩
    · rw [found] at looked
      cases looked
      exact Or.inr ⟨unnamed, tenantId, sent, filed⟩
    · rw [raised] at looked
      cases looked
  constructor
  · intro context resolved
    obtain ⟨looked, active⟩ := returned context resolved
    refine ⟨?_, active⟩
    rcases origin context looked with ⟨-, filed⟩ | ⟨-, tenantId, -, filed⟩
    · -- The slug index holds only what the id index holds.
      exact (consistent.same _).mpr ((Dict.mem_values_iff _ _).mpr ⟨_, filed⟩)
    · exact (Dict.mem_values_iff _ _).mpr ⟨_, filed⟩
  · intro label names filled
    have slug := subdomainSlug_of_namesLabel names
    have named : subdomainSlug request ≠ "" := by
      rw [slug]
      exact filled
    refine ⟨fun other host => resolve_named host named, ?_⟩
    intro context resolved
    rcases origin context (returned context resolved).1 with ⟨-, filed⟩ | ⟨unnamed, -⟩
    · rw [← slug]
      exact registry.slugKeyed _ _ filed
    · exact absurd unnamed named
  · intro nameless context resolved
    rcases origin context (returned context resolved).1 with ⟨named, -⟩ |
      ⟨-, tenantId, sent, filed⟩
    · exact absurd (nameless _ (namesLabel_subdomainSlug named)) named
    · rw [sent, registry.idKeyed _ _ filed]
  · intro error failed
    rcases resolve_cases registry request with ⟨context, -, -, same⟩ | ⟨message, raised⟩
    · rw [same] at failed
      cases failed
    · rw [raised] at failed
      cases failed
      exact ⟨message, rfl⟩

/-- What a request is answered: the response of the application, or a refusal with its detail. -/
inductive Reply (Response : Type) where
  | answered (response : Response)
  | refused (statusCode : Nat) (detail : String)

section Dispatch

variable {Response State : Type} (registry : TenantRegistry)
  (callNext : Request → EStateM PyError (Option TenantContext × State) Response) (request : Request)

/-- `request.url.path.startswith(EXEMPT_PATH_PREFIXES)`. -/
def exempt : Bool := exemptPathPrefixes.any fun start => start.toList.isPrefixOf request.path.toList

/-- `dispatch(request, call_next)`, where the bound tenant is part of the state. -/
def dispatch : EStateM PyError (Option TenantContext × State) (Reply Response) := do
  if exempt request then
    return .answered (← callNext request)
  else match resolve registry request with
  | .error (.tenantNotFound message) => return .refused 400 message
  | .error error => throw error
  | .ok context =>
    modify fun (_, rest) => (some context, rest)
    tryFinally (Reply.answered <$> callNext request) (modify fun (_, rest) => (none, rest))

/-- What is done at the end is done after both outcomes. -/
theorem run_tryFinally {World Value Result : Type} (code : EStateM PyError World Value)
    (wrap : Value → Result) (update : World → World) (world : World) :
    (tryFinally (wrap <$> code) (modify update)).run world =
      match code.run world with
      | .ok value after => .ok (wrap value) (update after)
      | .error error after => .error error (update after) := by
  have updates : ∀ world,
      (modify update : EStateM PyError World PUnit) world = .ok ⟨⟩ (update world) := fun _ => rfl
  cases ran : code.run world with
  | ok value after =>
    have same : code world = .ok value after := ran
    simp [tryFinally, tryFinally', EStateM.run, Functor.map, EStateM.map, same, updates]
  | error error after =>
    have same : code world = .error error after := ran
    simp [tryFinally, tryFinally', EStateM.run, Functor.map, EStateM.map, same, updates]

/--
Outside the exempt paths the application runs under a registered active tenant or not at all.

A refused request changes nothing, and after any other the tenant is unbound, also where the
application raised.
-/
theorem dispatch_confined {registry : TenantRegistry} (consistent : registry.Consistent)
    {request : Request} (guarded : exempt request = false) (current : Option TenantContext)
    (rest : State) :
    (∃ message, (dispatch registry callNext request).run (current, rest) =
      .ok (.refused 400 message) (current, rest)) ∨
    ∃ context, context.tenant ∈ registry.tenants ∧ context.tenant.isActive = true ∧
      (dispatch registry callNext request).run (current, rest) =
        match (callNext request).run (some context, rest) with
        | .ok response (_, after) => .ok (.answered response) (none, after)
        | .error error (_, after) => .error error (none, after) := by
  have safe := resolvesSafely consistent request
  unfold dispatch
  -- Resolution decides alone whether the application runs at all.
  rcases resolve_cases registry request with ⟨context, -, -, resolved⟩ | ⟨message, raised⟩
  · obtain ⟨registered, active⟩ := safe.registered context resolved
    refine Or.inr ⟨context, registered, active, ?_⟩
    simp only [guarded, resolved, Bool.false_eq_true, if_false, EStateM.run_bind, EStateM.run_modify,
      run_tryFinally]
    -- What the application did stays, and the binding goes.
    cases (callNext request).run (some context, rest) with
    | ok response after => rfl
    | error error after => rfl
  · exact Or.inl ⟨message, by simp [guarded, raised]⟩

end Dispatch

/--
After every run of registrations the indexes agree, a call that raises changes neither of them, and
every request is resolved safely over them.
-/
theorem resolution_consistent (calls : List TenantRegistry.Call) :
    (TenantRegistry.InPlace.run .new calls).Consistent ∧
    (∀ call error after, (TenantRegistry.InPlace.perform call).run
        (TenantRegistry.InPlace.run .new calls) = .error error after →
      after = TenantRegistry.InPlace.run .new calls) ∧
    ∀ request, ResolvesSafely (TenantRegistry.InPlace.run .new calls) request := by
  have consistent := TenantRegistry.consistent_run calls
  refine ⟨consistent, ?_, fun request => resolvesSafely consistent request⟩
  intro call error after raised
  exact TenantRegistry.perform_error raised

end TenantResolutionMiddleware

end JolCommerce
