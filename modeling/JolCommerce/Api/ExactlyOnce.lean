import JolCommerce.Api.RoutesOrder
import JolCommerce.Tenancy.Registry

/-! Exactly-once settlement: what the ledger holds for every order of a run of API requests. -/

namespace JolCommerce

open Python RoutesOrder

namespace OrderService

/-- The books of an order: nothing before it is completed, then one settlement by a registered tenant
that may touch the order, and one entry for each reversal. -/
inductive SettledOnce (service : OrderService) (registry : TenantRegistry) (books : OrderBooks) :
    Prop where
  | unsettled (open_ : books.order.status ≠ .completed)
    (uncaptured : books.order.commissionSnapshot = none)
    (nonneg : 0 ≤ books.order.totalAmountCents) (entries : books.entries = [])
    (fractions : books.fractions = [])
  | settled (completed : books.order.status = .completed) (payer : Tenant)
    (registered : payer ∈ registry.tenants)
    (owner : books.order.tenantId ≠ "" → books.order.tenantId = payer.tenantId)
    (split : CommissionSplit)
    (calculated : service.commissionEngine.calculate books.order.totalAmountCents
      (some payer.commissionRate) = .ok split)
    (captured : books.order.commissionSnapshot = some (snapshotOf split))
    (settlement : LedgerEntry) (reversals : List LedgerEntry)
    (entries : books.entries = settlement :: reversals)
    (fields : settlement.fields = settlementFields books.order split)
    (count : reversals.length = books.fractions.length)

/-- A call of a registered tenant on an order it may touch keeps the books of that order. -/
theorem BooksStep.settledOnce {service : OrderService} {registry : TenantRegistry}
    {context : TenantContext} {ref : OrderRef} {operation : Operation} {before after : OrderBooks}
    (taken : BooksStep service ⟨some context, ref, operation⟩ before after)
    (noRegister : ∀ actor stamp, operation ≠ .register actor stamp)
    (registered : context.tenant ∈ registry.tenants)
    (rate : AcceptedRate (some context.tenant.commissionRate))
    (allowed : Allows (some context) before.order.tenantId)
    (books : SettledOnce service registry before) : SettledOnce service registry after := by
  -- A completed order is terminal, so that it is settled at most once.
  cases taken with
  | idle => exact books
  | bound actor stamp registers => exact absurd registers (noRegister actor stamp)
  | moved change valid unsettled =>
    cases books with
    | unsettled open_ uncaptured nonneg entries fractions =>
      refine .unsettled ?_ uncaptured nonneg entries fractions
      -- A completion would have been settled, since amount and rate are fit for a calculation.
      intro completed
      obtain ⟨split, calculated⟩ := (CommissionEngine.calculate_ok_iff service.commissionEngine
        before.order.totalAmountCents _).mpr ⟨nonneg, rate⟩
      obtain ⟨error, failed⟩ := unsettled completed allowed
      rw [show boundRate (some context) = some context.tenant.commissionRate from rfl,
        calculated] at failed
      cases failed
    | settled completed => exact absurd completed (validTransitions_terminal valid).1
  | settled change completed valid _ split calculated entry fields =>
    cases books with
    | unsettled open_ uncaptured nonneg entries fractions =>
      refine .settled completed context.tenant registered ?_ split calculated rfl entry [] ?_ fields ?_
      -- The repository let the tenant pass, so the order is unowned or the tenant's own.
      · intro owned
        exact (allowed context rfl).resolve_left owned
      · simp [entries]
      · simp [fractions]
    | settled already => exact absurd already (validTransitions_terminal valid).1
  | reversed snapshot present rate fraction reversal reversed entry _ =>
    cases books with
    | unsettled open_ uncaptured =>
      rw [uncaptured] at present
      cases present
    | settled completed payer registered owner split calculated captured settlement reversals
        entries fields count =>
      refine .settled completed payer registered owner split calculated captured settlement
        (reversals ++ [entry]) ?_ fields ?_
      · simp [entries]
      · simp [count]

/-- What holds between the requests of a run. -/
structure ApiInvariant (service : OrderService) (registry : TenantRegistry) (journal : Journal) :
    Prop where
  /-- Orders are stored under their own ids. -/
  filed : ∀ orderId ref, journal.world.repository.get? orderId = some ref →
    (journal.world.orders ref).orderId = orderId ∧ ref < journal.world.nextRef
  /-- Only stored orders have entries in the ledger. -/
  booked : ∀ entry ∈ journal.world.ledger.entries,
    ∃ ref, journal.world.repository.get? entry.orderId = some ref
  /-- Only orders that exist were reversed. -/
  known : ∀ reversal ∈ journal.reversals, reversal.1 < journal.world.nextRef
  settled : ∀ orderId ref, journal.world.repository.get? orderId = some ref →
    SettledOnce service registry (journal.books ref)

/-- The tenant is registered; a created order has an amount that is not negative and a new id. -/
def Admissible (registry : TenantRegistry) (journal : Journal) (request : ApiRequest) : Prop :=
  request.context.tenant ∈ registry.tenants ∧
    ∀ create readings, request.call = .create create readings → 0 ≤ create.totalAmountCents ∧
      journal.world.repository.get? (newOrderId readings.orderUuid) = none

section Steps

variable {service : OrderService} {registry : TenantRegistry} {journal : Journal}

/-- Storing an order under its id again changes no lookup. -/
theorem OrderWrite.get?_repository {ref : OrderRef} {before after : World} {order : Order}
    {appended : List LedgerEntry} (write : OrderWrite ref before after order appended)
    (place : before.repository.get? (before.orders ref).orderId = some ref) (key : String) :
    after.repository.get? key = before.repository.get? key := by
  -- The place is written with what it holds already.
  rcases write.repository with same | stored
  · rw [same]
  · rw [stored, Dict.get?_set]
    split
    · rename_i key_eq
      rw [key_eq, place]
    · rfl

/-- A service operation on an order that was found keeps the invariant. -/
theorem served_invariant {context : TenantContext} {orderId : String} {ref : OrderRef}
    {operation : Operation} (invariant : ApiInvariant service registry journal)
    (finds : Finds (some context) orderId journal.world ref)
    (noRegister : ∀ actor stamp, operation ≠ .register actor stamp)
    (registered : context.tenant ∈ registry.tenants)
    (rate : AcceptedRate (some context.tenant.commissionRate)) :
    ApiInvariant service registry (service.journalStep journal ⟨some context, ref, operation⟩) := by
  -- The request writes one stored order; every other stored order has another id.
  obtain ⟨place, allowed⟩ := finds
  obtain ⟨own, exists_⟩ := invariant.filed orderId ref place
  obtain ⟨order, appended, write, recorded, taken⟩ :=
    journalStep_write service journal ⟨some context, ref, operation⟩
  have lookups := write.get?_repository (by rw [own]; exact place)
  have nextRef := write.nextRef
  refine ⟨?_, ?_, ?_, ?_⟩
  · intro key other found
    have before := invariant.filed key other ((lookups key).symm.trans found)
    refine ⟨?_, nextRef ▸ before.2⟩
    rw [← before.1]
    exact step_orderId service journal.world ⟨some context, ref, operation⟩ other
  · intro entry member
    -- A new entry belongs to the order of the request, which is stored.
    have split : entry ∈ journal.world.ledger.entries ++ appended := write.ledger ▸ member
    rcases List.mem_append.mp split with old | new
    · obtain ⟨other, found⟩ := invariant.booked entry old
      exact ⟨other, (lookups _).trans found⟩
    · refine ⟨ref, (lookups _).trans ?_⟩
      rw [write.owned entry new, own]
      exact place
  · intro reversal member
    refine nextRef.symm ▸ ?_
    rcases List.mem_append.mp member with old | new
    · exact invariant.known reversal old
    · rw [recorded reversal (by simpa using new)]
      exact exists_
  · intro key other found
    have before := (lookups key).symm.trans found
    by_cases same : other = ref
    · subst same
      have books := taken.settledOnce noRegister registered rate allowed
        (invariant.settled key other before)
      rw [← write.books_self recorded] at books
      exact books
    · -- Two stored orders with one id would be one and the same.
      have distinct : (journal.world.orders ref).orderId ≠ (journal.world.orders other).orderId := by
        intro equal
        rw [own, (invariant.filed key other before).1] at equal
        rw [← equal, place] at before
        exact same (Option.some.inj before).symm
      have books := write.books_other recorded same distinct
      unfold journalStep
      rw [books]
      exact invariant.settled key other before

/-- A created order takes a new reference and is stored under its id; nothing else changes. -/
structure Creates (before after : World) (order : Order) : Prop where
  orders : after.orders = Function.update before.orders before.nextRef order
  repository : after.repository = before.repository.set order.orderId before.nextRef
  nextRef : after.nextRef = before.nextRef + 1
  ledger : after.ledger = before.ledger

/-- A creation does this with the order it constructs. -/
theorem afterCreate_creates (service : OrderService) (context : TenantContext) (mode : PaymentMode)
    (create : CreateOrderRequest) (readings : CreateReadings) (world : World) :
    Creates world (afterCreate service context mode create readings world)
      (newOrder context mode create readings) := by
  have placed : (world.allocated (newOrder context mode create readings)).orders world.nextRef =
      newOrder context mode create readings := by
    simp [World.allocated, World.withOrder]
  refine ⟨?_, ?_, rfl, rfl⟩
  · -- Registering writes the order back as it is, over the object that was just allocated.
    simp only [afterCreate, afterRegister, placed, bindTenant_newOrder]
    simp [World.allocated, World.withOrder]
  · simp [afterCreate, afterRegister, World.allocated]

/-- The creation of an order with a new id keeps the invariant. -/
theorem created_invariant {after : World} {order : Order}
    (invariant : ApiInvariant service registry journal) (created : Creates journal.world after order)
    (fresh : journal.world.repository.get? order.orderId = none)
    (draft : order.status = .draft) (uncaptured : order.commissionSnapshot = none)
    (nonneg : 0 ≤ order.totalAmountCents) :
    ApiInvariant service registry ⟨after, journal.reversals⟩ := by
  have place : after.orders journal.world.nextRef = order := by
    rw [created.orders, Function.update_self]
  -- Orders that existed have smaller references, so that they are all kept.
  have kept : ∀ other, other < journal.world.nextRef →
      after.orders other = journal.world.orders other := by
    intro other smaller
    rw [created.orders, Function.update_of_ne (Nat.ne_of_lt smaller)]
  -- A lookup gives the new order under its id, and what it gave before elsewhere.
  have lookups : ∀ key ref, after.repository.get? key = some ref →
      (key = order.orderId ∧ ref = journal.world.nextRef) ∨
        journal.world.repository.get? key = some ref := by
    intro key ref found
    rw [created.repository, Dict.get?_set] at found
    split at found
    · rename_i same
      exact Or.inl ⟨same, (Option.some.inj found).symm⟩
    · exact Or.inr found
  refine ⟨?_, ?_, ?_, ?_⟩
  · intro key ref found
    rw [created.nextRef]
    rcases lookups key ref found with ⟨rfl, rfl⟩ | old
    · exact ⟨by rw [place], Nat.lt_succ_self _⟩
    · obtain ⟨own, smaller⟩ := invariant.filed key ref old
      exact ⟨by rw [kept ref smaller]; exact own, Nat.lt_succ_of_lt smaller⟩
  · intro entry member
    obtain ⟨ref, found⟩ := invariant.booked entry (created.ledger ▸ member)
    refine ⟨ref, ?_⟩
    rw [created.repository, Dict.get?_set]
    split
    · rename_i same
      rw [same, fresh] at found
      cases found
    · exact found
  · intro reversal member
    rw [created.nextRef]
    exact Nat.lt_succ_of_lt (invariant.known reversal member)
  · intro key ref found
    rcases lookups key ref found with ⟨rfl, rfl⟩ | old
    · -- Neither the ledger nor the journal can know the new order.
      have unbooked : after.ledger.forOrder order.orderId = [] := by
        rw [created.ledger, CommissionLedger.forOrder, List.filter_eq_nil_iff]
        intro entry member
        obtain ⟨ref, stored⟩ := invariant.booked entry member
        intro same
        rw [of_decide_eq_true same, fresh] at stored
        cases stored
      have unreversed : Journal.fractions ⟨after, journal.reversals⟩ journal.world.nextRef = [] := by
        rw [Journal.fractions, List.map_eq_nil_iff, List.filter_eq_nil_iff]
        intro reversal member same
        exact Nat.ne_of_lt (invariant.known reversal member) (of_decide_eq_true same)
      refine .unsettled ?_ ?_ ?_ ?_ unreversed
      · simp [Journal.books, place, draft]
      · simp [Journal.books, place, uncaptured]
      · simpa [Journal.books, place] using nonneg
      · simpa [Journal.books, place] using unbooked
    · have same : Journal.books ⟨after, journal.reversals⟩ ref = journal.books ref := by
        simp only [Journal.books, kept ref (invariant.filed key ref old).2, created.ledger,
          Journal.fractions]
      rw [same]
      exact invariant.settled key ref old

/-- Every admissible request keeps the invariant. -/
theorem apiStep_invariant (rates : ∀ tenant ∈ registry.tenants, AcceptedRate (some tenant.commissionRate))
    (request : ApiRequest) (invariant : ApiInvariant service registry journal)
    (admissible : Admissible registry journal request) :
    ApiInvariant service registry (service.apiStep journal request) := by
  -- Each effect in turn: nothing, a new order, or an operation on a stored one.
  obtain ⟨registered, creation⟩ := admissible
  have effect := apiStep_effect service journal request
  generalize service.apiStep journal request = after at effect
  cases effect with
  | none => exact invariant
  | created create readings creates mode =>
    obtain ⟨nonneg, fresh⟩ := creation create readings creates
    exact created_invariant invariant
      (afterCreate_creates service request.context mode create readings journal.world) fresh rfl rfl
      nonneg
  | served orderId ref finds operation noRegister =>
    exact served_invariant invariant finds noRegister registered (rates _ registered)

end Steps

/-- What exactly-once settlement means for one order. -/
structure SettlesExactlyOnce (service : OrderService) (registry : TenantRegistry)
    (books : OrderBooks) : Prop where
  snapshot : books.order.commissionSnapshot.isSome = true ↔ books.order.status = .completed
  count : books.entries.length =
    if books.order.status = .completed then 1 + books.fractions.length else 0
  settlement : ∀ settlement reversals, books.entries = settlement :: reversals →
    settlement.tenantId = books.order.tenantId ∧ settlement.currency = books.order.currency ∧
    settlement.grossAmountCents = books.order.totalAmountCents ∧
    books.order.commissionSnapshot = some ⟨settlement.rate, settlement.platformFeeCents,
      settlement.tenantSettlementCents⟩ ∧
    ∃ payer ∈ registry.tenants,
      (books.order.tenantId ≠ "" → registry.getById books.order.tenantId = .ok payer) ∧
      ∃ split, service.commissionEngine.calculate books.order.totalAmountCents
          (some payer.commissionRate) = .ok split ∧
        settlement.platformFeeCents = split.platformFeeCents ∧
        settlement.tenantSettlementCents = split.tenantSettlementCents ∧
        settlement.rate = split.rateStr

private theorem getById_of_mem {registry : TenantRegistry} {tenant : Tenant}
    (registered : tenant ∈ registry.tenants) : registry.getById tenant.tenantId = .ok tenant := by
  -- A registered tenant is the one its id resolves to.
  rw [TenantRegistry.getById, (registry.mem_tenants_iff tenant).mp registered]

/-- The invariant of one order says so. -/
theorem SettledOnce.exactly {service : OrderService} {registry : TenantRegistry} {books : OrderBooks}
    (once : SettledOnce service registry books) : SettlesExactlyOnce service registry books := by
  -- Both cases are read off; only the owner has to be looked up in the registry.
  cases once with
  | unsettled open_ uncaptured nonneg entries fractions =>
    refine ⟨?_, ?_, ?_⟩
    · simp [uncaptured, open_]
    · simp [entries, open_]
    · intro settlement reversals same
      rw [entries] at same
      cases same
  | settled completed payer registered owner split calculated captured settlement reversals entries
      fields count =>
    refine ⟨?_, ?_, ?_⟩
    · simp [captured, completed]
    · simp only [entries, completed, if_true, List.length_cons, count]
      omega
    · intro first rest same
      rw [entries] at same
      cases same
      -- Each field of the entry is the one it was built with.
      have fee : settlement.platformFeeCents = split.platformFeeCents :=
        congrArg LedgerArguments.platformFeeCents fields
      have share : settlement.tenantSettlementCents = split.tenantSettlementCents :=
        congrArg LedgerArguments.tenantSettlementCents fields
      have rate : settlement.rate = split.rateStr := congrArg LedgerArguments.rate fields
      refine ⟨congrArg LedgerArguments.tenantId fields, congrArg LedgerArguments.currency fields, ?_,
        ?_, payer, registered, ?_, split, calculated, fee, share, rate⟩
      · rw [← (CommissionEngine.calculate_spec calculated).gross_eq]
        exact congrArg LedgerArguments.grossAmountCents fields
      · rw [captured, fee, share, rate]
        rfl
      · intro owned
        rw [owner owned]
        exact getById_of_mem registered

/--
After any run of order requests and reversals by registered tenants, every stored order is settled
exactly when it is completed, with one ledger entry for the settlement and one for each reversal. The
settlement is at the rate of the tenant that owns the order; an order without an owner is settled at
the rate of the registered tenant that completed it.
-/
theorem settled_exactly_once {service : OrderService} {registry : TenantRegistry}
    (rates : ∀ tenant ∈ registry.tenants, AcceptedRate (some tenant.commissionRate))
    (orders : OrderRef → Order) (nextRef : OrderRef) {requests : List ApiRequest}
    (admissible : Run.AllSteps service.apiStep (Admissible registry)
      ⟨World.fresh orders nextRef, []⟩ requests)
    {orderId : String} {ref : OrderRef}
    (stored : (requests.foldl service.apiStep
      ⟨World.fresh orders nextRef, []⟩).world.repository.get? orderId = some ref) :
    SettlesExactlyOnce service registry
      ((requests.foldl service.apiStep ⟨World.fresh orders nextRef, []⟩).books ref) := by
  -- Nothing is stored at first, and every admissible request keeps the invariant.
  have initial : ApiInvariant service registry ⟨World.fresh orders nextRef, []⟩ := by
    refine ⟨?_, ?_, ?_, ?_⟩
    · intro key other found
      simp [World.fresh] at found
    · intro entry member
      simp [World.fresh, CommissionLedger.new] at member
    · intro reversal member
      simp at member
    · intro key other found
      simp [World.fresh] at found
  have reached := Run.foldl_invariant service.apiStep
    (fun journal request invariant admitted => apiStep_invariant rates request invariant admitted)
    initial admissible
  exact (reached.settled orderId ref stored).exactly

/-- A tenant registered without an id. -/
def ownerless : TenantContext :=
  ⟨⟨"", "st-anna", "St. Anna", .faithCommunity, "0.10", "", true⟩, "subdomain"⟩

/-- A tenant with an id and a rate of its own. -/
def parish : TenantContext :=
  ⟨⟨"t1", "st-boris", "St. Boris", .faithCommunity, "0.50", "", true⟩, "subdomain"⟩

/-- The registry of the two. -/
def twoTenants : TenantRegistry :=
  TenantRegistry.new.run [.register ownerless.tenant, .register parish.tenant]

/-- An order that one tenant creates and the parish completes and reverses by half. -/
def settlementRun (creator : TenantContext) : List ApiRequest :=
  let orderId := newOrderId Stamp.sample.uuid
  let readings := sampleReadings (.ok "")
  [⟨creator, .create ⟨"customer", [], 1000, "EUR", "RO", "online_prepay", ""⟩
      ⟨Stamp.sample.uuid, Stamp.sample, Stamp.sample⟩⟩,
    ⟨parish, .transition orderId ⟨"reserved", "clerk", ""⟩ readings⟩,
    ⟨parish, .transition orderId ⟨"confirmed", "clerk", ""⟩ readings⟩,
    ⟨parish, .transition orderId ⟨"in_progress", "clerk", ""⟩ readings⟩,
    ⟨parish, .complete orderId ⟨"", "clerk", ""⟩ readings⟩,
    ⟨parish, .reverse orderId "clerk" "0.5" "" Stamp.sample Stamp.sample⟩]

/-- The journal of that run. -/
def settlementJournal (creator : TenantContext) : Journal :=
  (settlementRun creator).foldl sampleService.apiStep ⟨World.fresh draftOrders 0, []⟩

private theorem twoTenants_rates :
    ∀ tenant ∈ twoTenants.tenants, AcceptedRate (some tenant.commissionRate) := by
  -- Both rates are accepted.
  have listed : twoTenants.tenants = [ownerless.tenant, parish.tenant] := by decide +kernel
  intro tenant member text same
  rw [listed] at member
  simp only [List.mem_cons, List.not_mem_nil, or_false] at member
  rcases member with rfl | rfl
  · cases same
    refine ⟨.finite false 10 (-2), by decide +kernel, 1 / 10, ⟨_, _, _, rfl, ?_⟩, ?_⟩
    · norm_num [Decimal.value, Significant.value]
    · norm_num
  · cases same
    refine ⟨.finite false 50 (-2), by decide +kernel, 1 / 2, ⟨_, _, _, rfl, ?_⟩, ?_⟩
    · norm_num [Decimal.value, Significant.value]
    · norm_num

private theorem settlementRun_admissible {creator : TenantContext}
    (registered : creator.tenant ∈ twoTenants.tenants) :
    Run.AllSteps sampleService.apiStep (Admissible twoTenants) ⟨World.fresh draftOrders 0, []⟩
      (settlementRun creator) := by
  -- Every request of the run is admissible, whichever of the two creates the order.
  have known : parish.tenant ∈ twoTenants.tenants := by decide +kernel
  refine ⟨⟨registered, ?_⟩, ⟨known, ?_⟩, ⟨known, ?_⟩, ⟨known, ?_⟩, ⟨known, ?_⟩, ⟨known, ?_⟩, trivial⟩
  · intro create readings same
    cases same
    exact ⟨by decide, rfl⟩
  all_goals
    intro create readings same
    cases same

/-- The parish's own order is settled at its rate, and reversed once. -/
theorem settled_exactly_once_parish :
    SettlesExactlyOnce sampleService twoTenants ((settlementJournal parish).books 0) ∧
      ((settlementJournal parish).books 0).order.status = .completed ∧
      ((settlementJournal parish).books 0).entries.length = 2 := by
  refine ⟨?_, by decide +kernel, by decide +kernel⟩
  have stored : (settlementJournal parish).world.repository.get? (newOrderId Stamp.sample.uuid) =
      some 0 := by decide +kernel
  exact settled_exactly_once twoTenants_rates draftOrders 0
    (settlementRun_admissible (by decide +kernel)) stored

/-- An order of the tenant without an id is settled at the rate of the parish that completes it. -/
theorem settled_at_other_rate :
    (∀ tenant ∈ twoTenants.tenants, AcceptedRate (some tenant.commissionRate)) ∧
    Run.AllSteps sampleService.apiStep (Admissible twoTenants) ⟨World.fresh draftOrders 0, []⟩
      (settlementRun ownerless) ∧
    twoTenants.getById ((settlementJournal ownerless).books 0).order.tenantId =
      .ok ownerless.tenant ∧
    ((settlementJournal ownerless).books 0).entries.map LedgerEntry.platformFeeCents =
      [500, -250] ∧
    (sampleService.commissionEngine.calculate
      ((settlementJournal ownerless).books 0).order.totalAmountCents
      (some ownerless.tenant.commissionRate)).map CommissionSplit.platformFeeCents = .ok 100 := by
  refine ⟨twoTenants_rates, settlementRun_admissible (by decide +kernel), ?_, by decide +kernel, ?_⟩
  · exact getById_of_mem (by decide +kernel)
  · rfl

end OrderService

end JolCommerce
