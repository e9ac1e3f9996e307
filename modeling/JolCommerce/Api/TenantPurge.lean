import JolCommerce.Api.OrderServer
import JolCommerce.Orders.Isolation
import JolCommerce.Run.Purge

/-! A tenant cannot tell whether other tenants use the order API, but for the ids they have taken. -/

namespace JolCommerce

open Python RoutesOrder Run

/-- A fact about a pair's calls, read as what they return and leave behind. -/
theorem results_of_simulates {α : Type} {related : World → World → Prop} {first second : ServiceM α}
    {before : World → World → Prop}
    (simulates : Simulates before first second
      (fun value result shared own => result = value ∧ related shared own) related)
    {shared own : World} (start : before shared own) :
    resultOf second own = resultOf first shared ∧
      related (stateAfter first shared) (stateAfter second own) := by
  have both := simulates shared own start
  unfold resultOf stateAfter
  split at both
  · rename_i value after result final ran follows
    rw [ran, follows]
    exact ⟨congrArg Except.ok both.1, both.2⟩
  · rename_i error after fault final ran follows
    rw [ran, follows]
    exact ⟨congrArg Except.error both.1.symm, both.2⟩
  · exact both.elim
  · exact both.elim

section Lookups

variable {tenantId : String} {shared own : World}

/-- Two orders found under one id in the two worlds are a pair. -/
theorem Alike.paired (alike : Alike tenantId shared own) {orderId : String} {ref twin : OrderRef}
    (found : shared.repository.get? orderId = some ref)
    (owner : (shared.orders ref).tenantId = tenantId)
    (place : own.repository.get? orderId = some twin) (same : own.orders twin = shared.orders ref) :
    Paired tenantId ref twin shared own where
  toAlike := alike
  same := same
  owner := owner
  existing := ⟨alike.sharedFiled.existing _ _ found, alike.ownFiled.existing _ _ place⟩
  place := by
    -- Each is stored under its own id only, and that is one id.
    intro other
    constructor
    · intro here
      rw [← alike.sharedFiled.named _ _ here, alike.sharedFiled.named _ _ found]
      exact place
    · intro there
      rw [← alike.ownFiled.named _ _ there, alike.ownFiled.named _ _ place]
      exact found

/-- An id is free in both worlds, the tenant's in both, or another tenant's and free in its own. -/
theorem Alike.lookup (alike : Alike tenantId shared own) (orderId : String) :
    (shared.repository.get? orderId = none ∧ own.repository.get? orderId = none) ∨
    (∃ ref twin, shared.repository.get? orderId = some ref ∧
      own.repository.get? orderId = some twin ∧ Paired tenantId ref twin shared own) ∨
    ∃ ref, shared.repository.get? orderId = some ref ∧ (shared.orders ref).tenantId ≠ tenantId ∧
      own.repository.get? orderId = none := by
  have view := alike.orders orderId
  unfold World.storedOrder at view
  cases found : shared.repository.get? orderId with
  | none =>
    rw [found] at view
    exact Or.inl ⟨rfl, Option.map_eq_none_iff.mp view⟩
  | some ref =>
    rw [found, Option.map_some, Option.filter_some] at view
    by_cases owner : (shared.orders ref).tenantId = tenantId
    · rw [if_pos (decide_eq_true owner)] at view
      obtain ⟨twin, place, same⟩ := Option.map_eq_some_iff.mp view
      exact Or.inr (Or.inl ⟨ref, twin, rfl, place, alike.paired found owner place same⟩)
    · rw [if_neg (by simpa using owner)] at view
      exact Or.inr (Or.inr ⟨ref, rfl, owner, Option.map_eq_none_iff.mp view⟩)

/-- Allocating the same new order of the tenant in both worlds gives a pair. -/
theorem Alike.allocated (alike : Alike tenantId shared own) {order : Order}
    (owner : order.tenantId = tenantId) :
    PairedAt tenantId shared.nextRef own.nextRef order (shared.allocated order)
      (own.allocated order) := by
  -- Neither object is stored anywhere, since all that is stored has a smaller reference.
  have unstored : ∀ {world : World}, world.Filed → ∀ orderId,
      world.repository.get? orderId ≠ some world.nextRef := by
    intro world filed orderId found
    exact absurd (filed.existing orderId _ found) (Nat.lt_irrefl _)
  have views : ∀ {world : World}, world.Filed → ∀ orderId,
      (world.allocated order).storedOrder orderId = world.storedOrder orderId := by
    intro world filed orderId
    have written := World.storedOrder_withOrder world world.nextRef order orderId
    rw [if_neg (unstored filed orderId)] at written
    exact written
  have filed : ∀ {world : World}, world.Filed → (world.allocated order).Filed := by
    intro world filed
    have kept : ∀ orderId ref, world.repository.get? orderId = some ref →
        (world.allocated order).orders ref = world.orders ref := fun orderId ref found =>
      World.withOrder_other world order (Nat.ne_of_lt (filed.existing orderId ref found))
    constructor
    · intro orderId ref found
      rw [kept orderId ref found]
      exact filed.named orderId ref found
    · intro orderId ref found
      exact Nat.lt_succ_of_lt (filed.existing orderId ref found)
    · intro orderId ref found
      rw [kept orderId ref found]
      exact filed.owned orderId ref found
  refine ⟨⟨⟨filed alike.sharedFiled, filed alike.ownFiled, ?_, alike.ledger⟩, ?_, ?_,
    ⟨Nat.lt_succ_self _, Nat.lt_succ_self _⟩, ?_⟩, ?_⟩
  · intro orderId
    rw [views alike.sharedFiled, views alike.ownFiled]
    exact alike.orders orderId
  · simp [World.allocated, World.withOrder]
  · simpa [World.allocated, World.withOrder] using owner
  · intro orderId
    exact iff_of_false (unstored alike.sharedFiled orderId) (unstored alike.ownFiled orderId)
  · simp [World.allocated, World.withOrder]

end Lookups

namespace OrderService

variable (service : OrderService) {context : TenantContext}

/-- A creation does the same in both worlds. -/
theorem createOrder_alike (named : context.tenantId ≠ "") (request : CreateOrderRequest)
    (readings : CreateReadings) :
    Simulates (Alike context.tenantId) (createOrder service (some context) request readings)
      (createOrder service (some context) request readings)
      (fun value result shared own => result = value ∧ Alike context.tenantId shared own)
      (Alike context.tenantId) := by
  unfold createOrder
  refine simulates_lift_bind (fun shared own start => start) fun bound required => ?_
  have same : bound = context := (Except.ok.inj required).symm
  subst same
  refine simulates_lift_bind (fun shared own start => start) fun mode read => ?_
  refine simulates_get_bind fun shared own alike => ?_
  dsimp only
  -- From here on the new objects of the two worlds are a pair.
  have allocates : ∀ now there, now = shared ∧ there = own →
      PairedAt bound.tenantId shared.nextRef own.nextRef (newOrder bound mode request readings)
        (now.allocated (newOrder bound mode request readings))
        (there.allocated (newOrder bound mode request readings)) := by
    intro now there here
    rw [here.1, here.2]
    exact alike.allocated rfl
  refine simulates_modify_bind allocates ?_
  refine simulates_bind ((register_alike service (some bound) named _ request.customerId
    readings.createdStamp).imp (fun _ _ _ _ registered => registered)
    fun _ _ paired => paired.toAlike) fun _ _ => ?_
  refine simulates_known_bind fun shared own start => ?_
  rw [start.paired.same]
  exact fun shared own start => ⟨rfl, start.paired.toAlike⟩

/-- Turning a call's exceptions into conflicts keeps two calls alike. -/
theorem conflicting_alike {α : Type} {tenantId : String} {ref twin : OrderRef}
    {first second : ServiceM α} (alike : ActsAlike tenantId ref twin first second) :
    ActsAlike tenantId ref twin (conflicting first) (conflicting second) := by
  -- What is raised in the place of an exception depends on the exception alone.
  intro shared own start
  have both := alike shared own start
  rw [run_conflicting, run_conflicting]
  cases ran : first.run shared with
  | ok value after =>
    rw [ran] at both
    cases follows : second.run own with
    | ok result final =>
      rw [follows] at both
      exact both
    | error fault final =>
      rw [follows] at both
      exact both.elim
  | error error after =>
    rw [ran] at both
    cases follows : second.run own with
    | ok result final =>
      rw [follows] at both
      exact both.elim
    | error fault final =>
      rw [follows] at both
      obtain ⟨rfl, paired⟩ := both
      cases error <;> exact ⟨rfl, paired⟩

/-- What a lifecycle route does with the order it found is the same in both worlds. -/
theorem responds_alike {α : Type} {tenantId : String} {ref twin : OrderRef}
    {first second : ServiceM α} (alike : ActsAlike tenantId ref twin first second) :
    ActsAlike tenantId ref twin
      (do
        let _ ← first
        return toResponse ((← get).orders ref))
      (do
        let _ ← second
        return toResponse ((← get).orders twin)) := by
  unfold ActsAlike
  refine simulates_bind alike fun _ _ => ?_
  refine simulates_fact fun _ => ?_
  refine simulates_order_bind fun shared own paired => ?_
  rw [paired.same]
  exact fun shared own start => ⟨rfl, start.paired⟩

/-- Every route but the creation looks its order up and does the same with the two of a pair. -/
theorem handler_looks_up (tenant : Option TenantContext) {route : OrderRoute} {orderId : String}
    (names : route.orderId? = some orderId) :
    ∃ body : OrderRef → ServiceM OrderResponse,
      route.handler service tenant = getOrderOr404 tenant orderId >>= body ∧
      ∀ tenantId, tenantId ≠ "" → ∀ ref twin, ActsAlike tenantId ref twin (body ref) (body twin) := by
  cases route with
  | createOrder request readings => cases names
  | getOrder named =>
    cases names
    refine ⟨_, rfl, fun tenantId _ ref twin => ?_⟩
    refine simulates_order_bind fun shared own paired => ?_
    rw [paired.same]
    exact fun shared own start => ⟨rfl, start.paired⟩
  | transitionOrder named request readings =>
    cases names
    refine ⟨_, rfl, fun tenantId owned ref twin => responds_alike (conflicting_alike ?_)⟩
    -- The status is read before the service is called.
    exact simulates_lift_bind (fun shared own start => start) fun status read =>
      transition_alike service tenant owned status request.actor request.reason readings
  | completeOrder named request readings =>
    cases names
    refine ⟨_, rfl, fun tenantId owned ref twin => responds_alike (conflicting_alike ?_)⟩
    exact transition_alike service tenant owned .completed request.actor request.reason readings
  | cancelOrder named request readings =>
    cases names
    refine ⟨_, rfl, fun tenantId owned ref twin => responds_alike (conflicting_alike ?_)⟩
    exact cancel_alike service tenant owned request.actor request.reason readings

/-- What the tenant is told where the id is another tenant's, and what it is told alone. -/
def denied : Except PyError OrderResponse :=
  .error (.crossTenantAccess "Cross-tenant order access denied (SOC2 CC6.2, Blueprint §2 RLS)")

/-- The answer for an id under which nothing is stored. -/
def notFound : Except PyError OrderResponse := .error (.httpException 404 "Order not found")

/-- Whether a request named another tenant's order, and its answer. -/
def observed (service : OrderService) (world : World) (request : OrderRequest) :
    Bool × Except PyError OrderResponse :=
  (namesForeign world request, service.answer world request)

/-- The same answer, unless the request named another tenant's order: then it was denied in the
shared world, and nothing was found in the tenant's own. -/
def AnsweredAlike (shared own : Bool × Except PyError OrderResponse) : Prop :=
  own.1 = false ∧ if shared.1 then shared.2 = denied ∧ own.2 = notFound else own.2 = shared.2

section Found

variable {context : TenantContext} {orderId : String} {world : World}
  (body : OrderRef → ServiceM OrderResponse)

/-- Where nothing is stored under the id, the route ends with 404. -/
theorem lookup_missing (absent : world.repository.get? orderId = none) :
    (getOrderOr404 (some context) orderId >>= body).run world =
      .error (.httpException 404 "Order not found") world := by
  simp [getOrderOr404, OrderRepository.findById, absent]

/-- An order of the tenant is handed on. -/
theorem lookup_found {ref : OrderRef} (found : world.repository.get? orderId = some ref)
    (owner : (world.orders ref).tenantId = context.tenantId) :
    (getOrderOr404 (some context) orderId >>= body).run world = (body ref).run world := by
  simp [getOrderOr404, OrderRepository.findById, found, OrderRepository.checkTenant, owner]

/-- Another tenant's order is denied. -/
theorem lookup_foreign {ref : OrderRef} (found : world.repository.get? orderId = some ref)
    (owned : (world.orders ref).tenantId ≠ "")
    (foreign : (world.orders ref).tenantId ≠ context.tenantId) :
    (getOrderOr404 (some context) orderId >>= body).run world = .error (.crossTenantAccess
      "Cross-tenant order access denied (SOC2 CC6.2, Blueprint §2 RLS)") world := by
  simp [getOrderOr404, OrderRepository.findById, found, OrderRepository.checkTenant, owned, foreign]

end Found

/-- A request of the tenant is answered alike, and the worlds stay alike. -/
theorem answered_alike {shared own : World} {request : OrderRequest}
    (named : request.context.tenantId ≠ "") (alike : Alike request.context.tenantId shared own) :
    AnsweredAlike (service.observed shared request) (service.observed own request) ∧
      Alike request.context.tenantId (service.afterRequest shared request)
        (service.afterRequest own request) := by
  rcases request with ⟨context, route⟩
  cases names : route.orderId? with
  | none =>
    -- Only a creation names no order.
    cases route with
    | createOrder create readings =>
      have results := results_of_simulates (createOrder_alike service named create readings) alike
      exact ⟨⟨rfl, results.1⟩, results.2⟩
    | getOrder | transitionOrder | completeOrder | cancelOrder => cases names
  | some orderId =>
    obtain ⟨body, calls, acts⟩ := handler_looks_up service (some context) names
    simp only [AnsweredAlike, observed, namesForeign, answer, afterRequest, names, calls,
      World.storedOrder]
    rcases alike.lookup orderId with ⟨free, absent⟩ | ⟨ref, twin, found, place, paired⟩ |
      ⟨ref, found, foreign, absent⟩
    · -- Nothing is found in either world.
      have sharedMissing := @lookup_missing context _ _ body free
      have ownMissing := @lookup_missing context _ _ body absent
      rw [resultOf_error sharedMissing, resultOf_error ownMissing, stateAfter_error sharedMissing,
        stateAfter_error ownMissing, free, absent]
      exact ⟨⟨rfl, rfl⟩, alike⟩
    · -- The same order is found in both, and the route does the same with it.
      have sharedRuns := lookup_found body found paired.owner
      have ownRuns := lookup_found body place (by rw [paired.same]; exact paired.owner)
      have results := results_of_simulates (acts context.tenantId named ref twin) paired
      unfold resultOf stateAfter at results ⊢
      rw [sharedRuns, ownRuns, found, place]
      simp only [Option.map_some, Option.any_some, paired.same, paired.owner, ne_eq, not_true_eq_false,
        decide_false, Bool.false_eq_true, if_false, true_and]
      exact ⟨results.1, results.2.toAlike⟩
    · -- It is found in the shared world only, and refused there.
      have refused := lookup_foreign body found (alike.sharedFiled.owned _ _ found) foreign
      have missing := @lookup_missing context _ _ body absent
      rw [resultOf_error refused, resultOf_error missing, stateAfter_error refused,
        stateAfter_error missing, found, absent]
      simp only [Option.map_some, Option.any_some, foreign, ne_eq, not_false_eq_true, decide_true,
        if_true]
      exact ⟨⟨rfl, rfl, rfl⟩, alike⟩

section Ignored

variable {tenantId : String} {shared own after : World}

/-- A new order of another tenant under an unused id. -/
theorem alike_created (alike : Alike tenantId shared own) {order : Order}
    (creates : Creates shared after order)
    (unused : shared.repository.get? order.orderId = none) (owned : order.tenantId ≠ "")
    (foreign : order.tenantId ≠ tenantId) : Alike tenantId after own := by
  have kept : ∀ orderId ref, shared.repository.get? orderId = some ref →
      after.orders ref = shared.orders ref := by
    intro orderId ref found
    rw [creates.orders, Function.update_of_ne
      (Nat.ne_of_lt (alike.sharedFiled.existing orderId ref found))]
  have place : after.orders shared.nextRef = order := by
    rw [creates.orders, Function.update_self]
  -- A lookup gives the new order under its id, and what it gave before elsewhere.
  have lookups : ∀ orderId, after.repository.get? orderId =
      if orderId = order.orderId then some shared.nextRef
      else shared.repository.get? orderId := by
    intro orderId
    rw [creates.repository, Dict.get?_set]
  have cases : ∀ orderId ref, after.repository.get? orderId = some ref →
      (orderId = order.orderId ∧ ref = shared.nextRef) ∨
        shared.repository.get? orderId = some ref := by
    intro orderId ref found
    rw [lookups] at found
    split at found
    · rename_i same
      exact Or.inl ⟨same, (Option.some.inj found).symm⟩
    · exact Or.inr found
  refine ⟨⟨?_, ?_, ?_⟩, alike.ownFiled, ?_, ?_⟩
  · intro orderId ref found
    rcases cases orderId ref found with ⟨rfl, rfl⟩ | old
    · rw [place]
    · rw [kept orderId ref old]
      exact alike.sharedFiled.named orderId ref old
  · intro orderId ref found
    rw [creates.nextRef]
    rcases cases orderId ref found with ⟨rfl, rfl⟩ | old
    · exact Nat.lt_succ_self _
    · exact Nat.lt_succ_of_lt (alike.sharedFiled.existing orderId ref old)
  · intro orderId ref found
    rcases cases orderId ref found with ⟨rfl, rfl⟩ | old
    · rw [place]
      exact owned
    · rw [kept orderId ref old]
      exact alike.sharedFiled.owned orderId ref old
  · intro orderId
    rw [alike.orders orderId]
    unfold World.storedOrder
    rw [lookups]
    split
    · -- Neither the new order nor what was there before is the tenant's.
      rename_i same
      rw [same, unused, Option.map_some, place, Option.filter_some_neg (by simpa using foreign)]
      rfl
    · cases found : shared.repository.get? orderId with
      | none => rfl
      | some ref => rw [Option.map_some, Option.map_some, kept orderId ref found]
  · rw [creates.ledger]
    exact alike.ledger

/-- A write to a stored order of another tenant. -/
theorem alike_written (alike : Alike tenantId shared own) {ref : OrderRef} {order : Order}
    {appended : List LedgerEntry} (write : OrderWrite ref shared after order appended)
    (place : shared.repository.get? (shared.orders ref).orderId = some ref)
    (kept : order.tenantId = (shared.orders ref).tenantId)
    (foreign : (shared.orders ref).tenantId ≠ tenantId)
    (entries : ∀ entry ∈ appended, entry.tenantId ≠ tenantId) : Alike tenantId after own := by
  -- Every lookup gives the reference it gave, and no object got another id or owner.
  have lookups := write.get?_repository place
  have fields : ∀ found, (after.orders found).orderId = (shared.orders found).orderId ∧
      (after.orders found).tenantId = (shared.orders found).tenantId := by
    intro found
    rw [write.orders]
    by_cases written : found = ref
    · subst written
      rw [Function.update_self]
      exact ⟨write.orderId, kept⟩
    · rw [Function.update_of_ne written]
      exact ⟨rfl, rfl⟩
  refine ⟨⟨?_, ?_, ?_⟩, alike.ownFiled, ?_, ?_⟩
  · intro orderId found there
    rw [(fields found).1]
    exact alike.sharedFiled.named orderId found ((lookups orderId).symm.trans there)
  · intro orderId found there
    rw [write.nextRef]
    exact alike.sharedFiled.existing orderId found ((lookups orderId).symm.trans there)
  · intro orderId found there
    rw [(fields found).2]
    exact alike.sharedFiled.owned orderId found ((lookups orderId).symm.trans there)
  · intro orderId
    rw [alike.orders orderId]
    unfold World.storedOrder
    rw [lookups]
    cases found : shared.repository.get? orderId with
    | none => rfl
    | some other =>
      by_cases written : other = ref
      · -- The written order was not the tenant's and is not now.
        subst written
        rw [Option.map_some, Option.map_some, Option.filter_some_neg (by simpa using foreign),
          Option.filter_some_neg (by simpa [(fields other).2] using foreign)]
      · rw [Option.map_some, Option.map_some, write.orders, Function.update_of_ne written]
  · rw [write.ledger, List.filter_append, ← alike.ledger]
    have none : appended.filter (fun entry => entry.tenantId = tenantId) = [] := by
      rw [List.filter_eq_nil_iff]
      intro entry member
      simpa using entries entry member
    rw [none, List.append_nil]

/-- A lifecycle call on an order that another tenant found. -/
theorem alike_lifecycle (service : OrderService) (alike : Alike tenantId shared own)
    {context : TenantContext} (foreign : context.tenantId ≠ tenantId) {orderId : String}
    {ref : OrderRef} (finds : Finds (some context) orderId shared ref) (call : LifecycleCall)
    (actor reason : String) (readings : LifecycleReadings) :
    Alike tenantId
      (service.step shared ⟨some context, ref, .lifecycle call actor reason readings⟩) own := by
  obtain ⟨place, allowed⟩ := finds
  -- What the tenant may touch has an owner, so that it is the tenant's own.
  have owner := (allowed context rfl).resolve_left (alike.sharedFiled.owned _ _ place)
  have acts := service.lifecycle_acts context owner call actor reason readings
  obtain ⟨order, appended, write, -, -⟩ := journalStep_write service ⟨shared, []⟩
    ⟨some context, ref, .lifecycle call actor reason readings⟩
  have written : order = (service.step shared
      ⟨some context, ref, .lifecycle call actor reason readings⟩).orders ref := by
    rw [write.orders, Function.update_self]
  refine alike_written alike write ?_ ?_ ?_ ?_
  · rw [alike.sharedFiled.named _ _ place]
    exact place
  · rw [written, acts.owner, owner]
  · rw [owner]
    exact foreign
  · -- The entries that were appended are the acting tenant's.
    intro entry member
    obtain ⟨added, ledger, entries⟩ := acts.ledger
    have same : appended = added := List.append_cancel_left (write.ledger.symm.trans ledger)
    rw [entries entry (same ▸ member)]
    exact foreign

/-- A lifecycle route of another tenant. -/
theorem alike_applied (service : OrderService) (alike : Alike tenantId shared own)
    {context : TenantContext} (foreign : context.tenantId ≠ tenantId) (orderId : String)
    {call : OrderRef → ServiceM OrderStateChange}
    (calls : ∀ ref, stateAfter (call ref) shared = shared ∨ ∃ lifecycle actor reason readings,
      stateAfter (call ref) shared =
        service.step shared ⟨some context, ref, .lifecycle lifecycle actor reason readings⟩) :
    Alike tenantId (stateAfter (applied (some context) orderId call) shared) own := by
  rcases stateAfter_applied (some context) orderId shared call with idle | ⟨ref, finds, same⟩
  · rw [idle]
    exact alike
  · rw [same]
    rcases calls ref with idle | ⟨lifecycle, actor, reason, readings, taken⟩
    · rw [idle]
      exact alike
    · rw [taken]
      exact alike_lifecycle service alike foreign finds lifecycle actor reason readings

/-- A request of another tenant leaves the tenant's orders and entries as they were. -/
theorem alike_ignored (service : OrderService) (alike : Alike tenantId shared own)
    {request : OrderRequest} (named : request.context.tenantId ≠ "")
    (foreign : request.context.tenantId ≠ tenantId) (unused : DrawsUnused shared request) :
    Alike tenantId (service.afterRequest shared request) own := by
  rcases request with ⟨context, route⟩
  cases route with
  | createOrder create readings =>
    rcases stateAfter_createOrder service context create readings shared with
      idle | ⟨mode, created⟩
    · simp only [afterRequest, OrderRoute.handler, idle]
      exact alike
    · simp only [afterRequest, OrderRoute.handler, created]
      exact alike_created alike (afterCreate_creates service context mode create readings shared)
        (unused create readings rfl) named foreign
  | getOrder orderId =>
    -- Reading changes nothing.
    have idle : service.afterRequest shared ⟨context, .getOrder orderId⟩ = shared := by
      show stateAfter (getOrderOr404 (some context) orderId >>= _) shared = shared
      rcases getOrderOr404_cases (some context) orderId shared with
        ⟨error, raised⟩ | ⟨ref, finds, found⟩
      · unfold stateAfter
        rw [EStateM.run_bind, raised]
      · unfold stateAfter
        rw [EStateM.run_bind, found]
        rfl
    rw [idle]
    exact alike
  | transitionOrder orderId request readings =>
    refine alike_applied service alike foreign orderId fun ref => ?_
    cases read : readOrderStatus request.status with
    | error error => exact Or.inl rfl
    | ok status => exact Or.inr ⟨.transition status, request.actor, request.reason, readings, rfl⟩
  | completeOrder orderId request readings =>
    exact alike_applied service alike foreign orderId fun ref =>
      Or.inr ⟨.complete, request.actor, request.reason, readings, rfl⟩
  | cancelOrder orderId request readings =>
    exact alike_applied service alike foreign orderId fun ref =>
      Or.inr ⟨.cancel, request.actor, request.reason, readings, rfl⟩

end Ignored

/-- The request is made in the context of the tenant. -/
def MadeBy (tenantId : String) (request : OrderRequest) : Prop :=
  request.context.tenantId = tenantId

instance (tenantId : String) : DecidablePred (MadeBy tenantId) := fun _ =>
  inferInstanceAs (Decidable (_ = _))

/-- The tenant of the request has an id, and a creation draws an unused one for its order. -/
def Regular (world : World) (request : OrderRequest) : Prop :=
  request.context.tenantId ≠ "" ∧ DrawsUnused world request

/-- The alike worlds unwind the requests of one tenant. -/
theorem unwinds (service : OrderService) (tenantId : String) :
    Unwinds service.afterRequest service.observed (MadeBy tenantId) Regular AnsweredAlike
      (Alike tenantId) where
  answered := by
    rintro shared own request alike ⟨named, -⟩ rfl
    exact (answered_alike service named alike).1
  taken := by
    rintro shared own request alike ⟨named, -⟩ rfl
    exact (answered_alike service named alike).2
  ignored := by
    rintro shared own request alike ⟨named, unused⟩ foreign
    exact alike_ignored service alike named foreign unused

/-- A creation that draws the given identifier. -/
def sampleCreation (tenantId : String) (uuid : Uuid) : OrderRequest where
  context := sampleContext tenantId "0.10"
  route := .createOrder ⟨"customer", [], 10000, "EUR", "LT", "online_prepay", ""⟩
    ⟨uuid, Stamp.sample, Stamp.sample⟩

/-- An identifier whose first digits differ from those of small ones. -/
def largeUuid : Uuid := ⟨0x80000000000000000000000000000000, by decide⟩

/-- Two tenants create an order each and look the other one's up. -/
def sampleTraffic : List OrderRequest :=
  [sampleCreation "tenant-a" Stamp.sample.uuid, sampleCreation "tenant-b" largeUuid,
    ⟨sampleContext "tenant-b" "0.10", .getOrder (newOrderId Stamp.sample.uuid)⟩,
    ⟨sampleContext "tenant-a" "0.10", .getOrder (newOrderId largeUuid)⟩,
    ⟨sampleContext "tenant-a" "0.10", .cancelOrder (newOrderId Stamp.sample.uuid)
      ⟨"", "clerk", ""⟩ (sampleReadings (.ok ""))⟩]

end OrderService

end JolCommerce
