import JolCommerce.Orders.Runs

/-! Tenants sharing one repository: what a request is given or changes belongs to its own tenant. -/

namespace JolCommerce

open Python

namespace OrderService

/-- What a request may do in its tenant's context. -/
inductive TenantOperation where
  | register (ref : OrderRef) (actor : String) (stamp : Stamp)
  | findById (orderId : String)
  | findByCustomer (customerId : String)
  | findByStatus (status : OrderStatus)
  | changesSince (timestamp : String)
  | lifecycle (ref : OrderRef) (call : LifecycleCall) (actor reason : String)
    (readings : LifecycleReadings)

/-- One operation of a request, with the tenant bound during the request. -/
structure TenantRequest where
  context : TenantContext
  operation : TenantOperation

/-- The order objects a query that ran gives its caller. -/
def queried (result : EStateM.Result PyError World (List OrderRef)) : List OrderRef :=
  match result with
  | .ok refs _ => refs
  | .error _ _ => []

/-- The order objects an operation gives the request that makes it. -/
def given (service : OrderService) (world : World) (request : TenantRequest) : List OrderRef :=
  match request.operation with
  | .register ref actor stamp =>
    -- `register` returns the order it was given.
    match (service.register (some request.context) ref actor stamp).run world with
    | .ok _ _ => [ref]
    | .error _ _ => []
  | .findById orderId =>
    match (OrderRepository.findById (some request.context) orderId).run world with
    | .ok found _ => found.toList
    | .error _ _ => []
  | .findByCustomer customerId =>
    queried ((OrderRepository.findByCustomer (some request.context) customerId).run world)
  | .findByStatus status =>
    queried ((OrderRepository.findByStatus (some request.context) status).run world)
  | .changesSince timestamp =>
    queried ((OrderRepository.changesSince (some request.context) timestamp).run world)
  | .lifecycle .. => []

/-- The world after an operation. -/
def worldAfter (service : OrderService) (world : World) (request : TenantRequest) : World :=
  -- The queries run like the rest, although they leave the world as it is.
  match request.operation with
  | .register ref actor stamp => service.step world ⟨some request.context, ref, .register actor stamp⟩
  | .findById orderId =>
    stateAfter (OrderRepository.findById (some request.context) orderId) world
  | .findByCustomer customerId =>
    stateAfter (OrderRepository.findByCustomer (some request.context) customerId) world
  | .findByStatus status =>
    stateAfter (OrderRepository.findByStatus (some request.context) status) world
  | .changesSince timestamp =>
    stateAfter (OrderRepository.changesSince (some request.context) timestamp) world
  | .lifecycle ref call actor reason readings =>
    service.step world ⟨some request.context, ref, .lifecycle call actor reason readings⟩

/-- The shared world, and the orders obtained from `find_by_id` with the tenant that obtained them. -/
structure Session where
  world : World
  held : List (String × OrderRef)

/-- The orders an operation obtained for later lifecycle calls. -/
def obtained (service : OrderService) (world : World) (request : TenantRequest) :
    List (String × OrderRef) :=
  -- Only a lookup by id gives an order that a later call may be made on.
  match request.operation with
  | .findById _ => (service.given world request).map fun ref => (request.context.tenantId, ref)
  | _ => []

/-- One operation of one request. -/
def sessionStep (service : OrderService) (session : Session) (request : TenantRequest) : Session where
  world := service.worldAfter session.world request
  held := session.held ++ service.obtained session.world request

/-- The bound tenant has an id, and lifecycle calls are made on orders it obtained. -/
def Entitled (session : Session) (request : TenantRequest) : Prop :=
  request.context.tenantId ≠ "" ∧
    ∀ ref call actor reason readings,
      request.operation = .lifecycle ref call actor reason readings →
        (request.context.tenantId, ref) ∈ session.held

/-- Everything an operation gives, changes, stores or records belongs to its tenant. -/
structure Confined (service : OrderService) (session : Session) (request : TenantRequest) : Prop where
  given : ∀ ref ∈ service.given session.world request,
    ((service.worldAfter session.world request).orders ref).tenantId = request.context.tenantId
  changed : ∀ ref, (service.worldAfter session.world request).orders ref ≠ session.world.orders ref →
    ((service.worldAfter session.world request).orders ref).tenantId = request.context.tenantId
  stored : ∀ orderId ref,
    (service.worldAfter session.world request).repository.get? orderId = some ref →
    session.world.repository.get? orderId ≠ some ref →
    ((service.worldAfter session.world request).orders ref).tenantId = request.context.tenantId
  recorded : ∃ added, (service.worldAfter session.world request).ledger.entries =
      session.world.ledger.entries ++ added ∧
    ∀ entry ∈ added, entry.tenantId = request.context.tenantId

/-- No stored order is unowned, and held orders belong to the tenant that holds them. -/
structure Isolated (session : Session) : Prop where
  owned : ∀ orderId ref, session.world.repository.get? orderId = some ref →
    (session.world.orders ref).tenantId ≠ ""
  held : ∀ tenantId ref, (tenantId, ref) ∈ session.held →
    tenantId ≠ "" ∧ (session.world.orders ref).tenantId = tenantId

/-- An operation on one order object that ends up owned by the bound tenant. -/
structure ActsOn (tenantId : String) (ref : OrderRef) (before after : World) : Prop where
  kept : ∀ other, other ≠ ref → after.orders other = before.orders other
  unclaimed : (before.orders ref).tenantId = "" ∨ (before.orders ref).tenantId = tenantId
  owner : (after.orders ref).tenantId = tenantId
  repository : after.repository = before.repository ∨
    after.repository = before.repository.set (before.orders ref).orderId ref
  ledger : ∃ added, after.ledger.entries = before.ledger.entries ++ added ∧
    ∀ entry ∈ added, entry.tenantId = tenantId

/-- Such an operation changes and stores the bound tenant's order only. -/
theorem ActsOn.stored {tenantId : String} {ref : OrderRef} {before after : World}
    (acts : ActsOn tenantId ref before after) {orderId : String} {found : OrderRef}
    (now : after.repository.get? orderId = some found)
    (new : before.repository.get? orderId ≠ some found) : found = ref := by
  -- A place that reads differently now was written, and only one reference is ever written.
  rcases acts.repository with same | set
  · rw [same] at now
    exact absurd now new
  · rw [set, Dict.get?_set] at now
    split at now
    · exact (Option.some.inj now).symm
    · exact absurd now new

/-- Such an operation keeps the tenants apart. -/
theorem ActsOn.isolated {tenantId : String} {ref : OrderRef} {before after : World}
    {held : List (String × OrderRef)} (acts : ActsOn tenantId ref before after)
    (named : tenantId ≠ "") (isolated : Isolated ⟨before, held⟩) : Isolated ⟨after, held⟩ where
  owned := by
    intro orderId found now
    by_cases written : found = ref
    · rw [written]
      simp only [acts.owner]
      exact named
    · simp only [acts.kept found written]
      by_contra unowned
      -- A lookup that does not give the written order gave the same before.
      have old : before.repository.get? orderId = some found := by
        by_contra new
        exact written (acts.stored now new)
      exact isolated.owned orderId found old unowned
  held := by
    intro holder found member
    obtain ⟨holderNamed, owner⟩ := isolated.held holder found member
    refine ⟨holderNamed, ?_⟩
    by_cases written : found = ref
    · -- A held order has an owner already, and the operation was allowed to touch it.
      subst written
      simp only at owner ⊢
      rcases acts.unclaimed with unowned | same
      · exact absurd (owner.symm.trans unowned) holderNamed
      · rw [acts.owner, ← same, owner]
    · simp only [acts.kept found written]
      exact owner

/-- An allowed registration leaves its order owned by the bound tenant. -/
theorem afterRegister_acts (service : OrderService) {context : TenantContext} {ref : OrderRef}
    {world : World} (actor : String) (stamp : Stamp)
    (allowed : Allows (some context) (world.orders ref).tenantId) :
    ActsOn context.tenantId ref world
      (service.afterRegister (some context) ref actor world stamp) where
  kept := fun other different => World.withOrder_other world _ different
  unclaimed := allowed context rfl
  owner := by
    simp only [afterRegister, World.logged_orders, World.stored_orders, World.withOrder_self]
    -- An unowned order becomes the bound tenant's, an own one stays so.
    rcases allowed context rfl with unowned | own
    · simp [bindTenant, unowned]
    · by_cases unowned : (world.orders ref).tenantId = ""
      · simp [bindTenant, unowned]
      · rw [bindTenant_owned _ unowned, own]
  repository := Or.inr (by simp [afterRegister])
  ledger := ⟨[], by simp [afterRegister], by simp⟩

/-- A lifecycle call that stored an own order acts on that order. -/
theorem StoresOrder.acts {tenantId : String} {ref : OrderRef} {before after : World}
    (stores : StoresOrder ref before after) (own : (before.orders ref).tenantId = tenantId)
    (ledger : ∃ added, after.ledger.entries = before.ledger.entries ++ added ∧
      ∀ entry ∈ added, entry.tenantId = tenantId) : ActsOn tenantId ref before after :=
  ⟨stores.kept, Or.inr own, stores.owner.trans own, Or.inr stores.repository, ledger⟩

/-- A lifecycle call on an own order raises before it does anything, or acts on that order. -/
theorem lifecycle_acts (service : OrderService) (context : TenantContext) {ref : OrderRef}
    {world : World} (own : (world.orders ref).tenantId = context.tenantId) (call : LifecycleCall)
    (actor reason : String) (readings : LifecycleReadings) :
    ActsOn context.tenantId ref world
      (service.step world ⟨some context, ref, .lifecycle call actor reason readings⟩) := by
  -- One effect at a time; on an own order the repository refuses nothing.
  have effect := step_effect service world ⟨some context, ref, .lifecycle call actor reason readings⟩
  have nothing : ∀ after : World, after.ledger = world.ledger →
      ∃ added, after.ledger.entries = world.ledger.entries ++ added ∧
        ∀ entry ∈ added, entry.tenantId = context.tenantId := fun after same =>
    ⟨[], by rw [same, List.append_nil], by simp⟩
  generalize service.step world ⟨some context, ref, .lifecycle call actor reason readings⟩ = after
    at effect
  cases effect with
  | none _ idle => exact ⟨fun _ _ => rfl, Or.inr own, own, Or.inl rfl, nothing world rfl⟩
  | denied _ _ _ _ _ _ valid foreign =>
    exact absurd (fun other same => by cases same; exact Or.inr own) foreign
  | changed _ _ _ _ _ _ valid allowed _ _ =>
    exact (service.afterChange_stores ref call.target actor reason readings world).acts own
      (nothing _ rfl)
  | settled _ _ _ _ _ _ valid allowed completed split calculated entry built =>
    refine (service.afterSettlement_stores ref .completed actor reason readings world split
      entry).acts own ⟨[entry], rfl, ?_⟩
    intro added member
    rw [List.mem_singleton.mp member]
    -- The entry carries the owner of the order, which is the bound tenant.
    have fields := LedgerEntry.new_fields built
    exact (congrArg LedgerArguments.tenantId fields).trans own
  | unrefunded _ _ _ _ _ valid allowed configured error raised =>
    refine (service.afterRefund_stores ref actor reason readings world).acts own (nothing _ ?_)
    simp [afterRefund, configured, afterChange, afterMove]
  | cancelled _ _ _ _ _ valid allowed refundRef =>
    refine (service.afterCancel_stores ref actor reason readings world refundRef).acts own
      (nothing _ ?_)
    unfold afterCancel afterRefund
    split <;> rfl

/-- Acting on one own order confines an operation, provided it gives nothing else. -/
theorem ActsOn.confined {service : OrderService} {session : Session} {request : TenantRequest}
    {ref : OrderRef} (acts : ActsOn request.context.tenantId ref session.world
      (service.worldAfter session.world request))
    (gives : ∀ found ∈ service.given session.world request, found = ref) :
    Confined service session request where
  given := by
  -- What is touched is the one order, and that belongs to the tenant of the request.
    intro found member
    rw [gives found member]
    exact acts.owner
  changed := by
    intro found different
    by_cases written : found = ref
    · rw [written]
      exact acts.owner
    · exact absurd (acts.kept found written) different
  stored := by
    intro orderId found now new
    rw [acts.stored now new]
    exact acts.owner
  recorded := acts.ledger

private theorem select_run (context : TenantContext) (test : Order → Bool) (world : World) :
    (OrderRepository.select (some context) test).run world =
      .ok (world.repository.values.filter fun ref =>
        (world.orders ref).tenantId = context.tenantId && test (world.orders ref)) world := by
  -- A query gives the bound tenant's stored orders and leaves the world alone.
  rfl

/-- An operation that left the world alone is confined when all it gives is the bound tenant's. -/
theorem confined_of_same {service : OrderService} {session : Session} {request : TenantRequest}
    (same : service.worldAfter session.world request = session.world)
    (gives : ∀ ref ∈ service.given session.world request,
      (session.world.orders ref).tenantId = request.context.tenantId) :
    Confined service session request where
  given := by
  -- Where nothing changed only what is given out has to be looked at.
    rw [same]
    exact gives
  changed := by
    intro ref different
    rw [same] at different
    exact absurd rfl different
  stored := by
    intro orderId ref now new
    rw [same] at now
    exact absurd now new
  recorded := ⟨[], by rw [same, List.append_nil], by simp⟩

private theorem queried_select {context : TenantContext} {test : Order → Bool} {world : World}
    {ref : OrderRef}
    (member : ref ∈ queried ((OrderRepository.select (some context) test).run world)) :
    (world.orders ref).tenantId = context.tenantId := by
  -- What a query gives belongs to the bound tenant.
  rw [select_run] at member
  simp only [queried, List.mem_filter, Bool.and_eq_true, decide_eq_true_eq] at member
  exact member.2.1

/-- A query leaves the world alone. -/
theorem stateAfter_select (context : TenantContext) (test : Order → Bool) (world : World) :
    stateAfter (OrderRepository.select (some context) test) world = world :=
  stateAfter_ok (select_run context test world)

/-- Each of the three queries is confined. -/
theorem query_confined {service : OrderService} {session : Session} {request : TenantRequest}
    (isolated : Isolated session) (test : Order → Bool)
    (runs : service.worldAfter session.world request =
      stateAfter (OrderRepository.select (some request.context) test) session.world)
    (gives : service.given session.world request =
      queried ((OrderRepository.select (some request.context) test).run session.world))
    (holds : service.obtained session.world request = []) :
    Confined service session request ∧ Isolated (service.sessionStep session request) := by
  -- A query filters by the bound tenant, and nobody holds on to what it gives.
  rw [stateAfter_select] at runs
  refine ⟨confined_of_same runs fun ref member => ?_, ?_⟩
  · rw [gives] at member
    exact queried_select member
  · rw [sessionStep, runs, holds, List.append_nil]
    exact isolated

/-- Holding on to what a lookup gave keeps the tenants apart. -/
theorem Isolated.hold {world : World} {held : List (String × OrderRef)}
    (isolated : Isolated ⟨world, held⟩) {tenantId : String} (named : tenantId ≠ "")
    {refs : List OrderRef} (own : ∀ ref ∈ refs, (world.orders ref).tenantId = tenantId) :
    Isolated ⟨world, held ++ refs.map fun ref => (tenantId, ref)⟩ where
  owned := isolated.owned
  held := by
    intro holder ref member
    rcases List.mem_append.mp member with old | new
    · exact isolated.held holder ref old
    · obtain ⟨found, given, same⟩ := List.mem_map.mp new
      obtain ⟨rfl, rfl⟩ := Prod.mk.inj same
      exact ⟨named, own found given⟩

/-- In a world without unowned stored orders a lookup gives the bound tenant's orders only. -/
theorem findById_given {service : OrderService} {session : Session} (isolated : Isolated session)
    {context : TenantContext} {orderId : String} {ref : OrderRef}
    (member : ref ∈ service.given session.world ⟨context, .findById orderId⟩) :
    (session.world.orders ref).tenantId = context.tenantId := by
  -- The check lets unowned orders pass as well, but no stored order is unowned.
  simp only [given] at member
  rcases OrderRepository.findById_cases (some context) orderId session.world with
    ⟨-, returned⟩ | ⟨found, place, ⟨allowed, returned⟩ | ⟨-, error, raised⟩⟩
  · simp [returned] at member
  · rw [returned] at member
    simp only [Option.mem_toList, Option.some.injEq] at member
    subst member
    exact (allowed context rfl).resolve_left (isolated.owned orderId found place)
  · simp [raised] at member

/-- One operation of an entitled request is confined to its tenant and keeps the tenants apart. -/
theorem sessionStep_confined (service : OrderService) {session : Session} {request : TenantRequest}
    (isolated : Isolated session) (entitled : Entitled session request) :
    Confined service session request ∧ Isolated (service.sessionStep session request) := by
  -- Registering and moving act on one own order, everything else only reads.
  rcases session with ⟨world, held⟩
  rcases request with ⟨context, operation⟩
  obtain ⟨named, holds⟩ := entitled
  cases operation with
  | register ref actor stamp =>
    have outcome := register_outcome service (some context) ref actor world stamp
    generalize ran : (service.register (some context) ref actor stamp).run world = result at outcome
    cases outcome with
    -- A refused registration touched nothing.
    | denied foreign error =>
      have same : service.worldAfter world ⟨context, .register ref actor stamp⟩ = world := by
        simp [worldAfter, step, stateAfter, ran]
      refine ⟨confined_of_same same (by simp [given, ran]), ?_⟩
      simp only [sessionStep, same, obtained, List.append_nil]
      exact isolated
    | registered allowed =>
      have after : service.worldAfter world ⟨context, .register ref actor stamp⟩ =
          service.afterRegister (some context) ref actor world stamp := by
        simp [worldAfter, step, stateAfter, ran]
      have acts : ActsOn context.tenantId ref world
          (service.worldAfter world ⟨context, .register ref actor stamp⟩) := by
        rw [after]
        exact service.afterRegister_acts actor stamp allowed
      refine ⟨acts.confined (by simp [given, ran]), ?_⟩
      simp only [sessionStep, obtained, List.append_nil]
      exact acts.isolated named isolated
  | findById orderId =>
    -- A lookup gives an own order or raises, and it writes nothing.
    have gives : ∀ ref ∈ service.given world ⟨context, .findById orderId⟩,
        (world.orders ref).tenantId = context.tenantId := fun ref => findById_given isolated
    have same : service.worldAfter world ⟨context, .findById orderId⟩ = world := by
      simp only [worldAfter]
      rcases OrderRepository.findById_cases (some context) orderId world with
        ⟨-, returned⟩ | ⟨found, place, ⟨allowed, returned⟩ | ⟨-, error, raised⟩⟩
      · exact stateAfter_ok returned
      · exact stateAfter_ok returned
      · exact stateAfter_error raised
    refine ⟨confined_of_same same gives, ?_⟩
    simp only [sessionStep, same, obtained]
    exact isolated.hold named gives
  | findByCustomer customerId =>
    exact query_confined isolated (fun order => order.customerId = customerId) rfl rfl rfl
  | findByStatus status =>
    exact query_confined isolated (fun order => order.status = status) rfl rfl rfl
  | changesSince timestamp =>
    exact query_confined isolated (fun order => order.updatedAt ≠ "" && timestamp < order.updatedAt)
      rfl rfl rfl
  | lifecycle ref call actor reason readings =>
    -- The order was obtained from a lookup of this tenant, so it is the tenant's own.
    have own := (isolated.held _ _ (holds ref call actor reason readings rfl)).2
    have acts := service.lifecycle_acts context own call actor reason readings
    refine ⟨ActsOn.confined acts (by simp [given]), ?_⟩
    simp only [sessionStep, obtained, List.append_nil]
    exact acts.isolated named isolated

/--
Over any interleaving of tenants' operations on one repository that starts empty, every operation
is given, changes, stores and records only what belongs to the tenant it is made for.
-/
theorem tenants_isolated (service : OrderService) (orders : OrderRef → Order) (nextRef : OrderRef)
    {requests : List TenantRequest}
    (entitled : Run.AllSteps service.sessionStep Entitled ⟨World.fresh orders nextRef, []⟩ requests) :
    Run.AllSteps service.sessionStep (Confined service) ⟨World.fresh orders nextRef, []⟩ requests := by
  -- Nothing is stored or held at first, and every operation keeps the tenants apart.
  have initial : Isolated ⟨World.fresh orders nextRef, []⟩ := by
    constructor
    · intro orderId ref found
      cases found
    · intro tenantId ref member
      cases member
  exact Run.allSteps_guarantee service.sessionStep
    (fun session request isolated meets => sessionStep_confined service isolated meets) initial
    entitled

/-- Two tenants take turns registering, looking up and moving orders. -/
def sampleRequests : List TenantRequest :=
  [⟨sampleContext "tenant-a" "0.10", .register 0 "clerk" Stamp.sample⟩,
    ⟨sampleContext "tenant-b" "0.08", .register 1 "clerk" Stamp.sample⟩,
    ⟨sampleContext "tenant-a" "0.10", .findById "0"⟩,
    ⟨sampleContext "tenant-b" "0.08", .findByStatus .draft⟩,
    ⟨sampleContext "tenant-a" "0.10",
      .lifecycle 0 (.transition .reserved) "clerk" "" (sampleReadings (.ok ""))⟩]

/-- The turns of the two tenants stay confined. -/
theorem tenants_isolated_sample :
    Run.AllSteps sampleService.sessionStep (Confined sampleService)
      ⟨World.fresh draftOrders 2, []⟩ sampleRequests := by
  refine tenants_isolated sampleService draftOrders 2
    ⟨⟨by decide, ?_⟩, ⟨by decide, ?_⟩, ⟨by decide, ?_⟩, ⟨by decide, ?_⟩, ⟨by decide, ?_⟩, trivial⟩
  · intro ref call actor reason readings same
    cases same
  · intro ref call actor reason readings same
    cases same
  · intro ref call actor reason readings same
    cases same
  · intro ref call actor reason readings same
    cases same
  · intro ref call actor reason readings same
    cases same
    decide +kernel

end OrderService

end JolCommerce
