import JolCommerce.Orders.Books
import JolCommerce.Python.IsoOrder

/-! The change feed: orders are selected by the instant of their most recent transition. -/

namespace JolCommerce

open Python

/-- The most recent transition of an order was made at a clock reading, or there was none so far. -/
def Order.MovedLast (order : Order) : Option DateTime → Prop
  | none => order.history = [] ∧ order.updatedAt = ""
  | some moment => order.history.getLast?.map OrderStateChange.changedAt = some moment.isoformat ∧
      order.updatedAt = moment.isoformat

/-- A world with the clock reading of every order's most recent transition. -/
structure ClockedWorld where
  world : World
  movedAt : OrderRef → Option DateTime

namespace OrderService

/-- The clock reading of the transition that a request made, if it made one. -/
def transitionAt (before after : World) (request : Request) : Option DateTime :=
  match request.operation with
  | .lifecycle _ _ _ readings =>
    -- A transition adds to the history, even where the call raises afterwards.
    if (after.orders request.ref).history.length = (before.orders request.ref).history.length then none
    else some readings.changedAt
  | _ => none

/-- A request, with the clock reading of its transition kept. -/
def clockedStep (service : OrderService) (clocked : ClockedWorld) (request : Request) :
    ClockedWorld where
  world := service.step clocked.world request
  movedAt :=
    match transitionAt clocked.world (service.step clocked.world request) request with
    | none => clocked.movedAt
    | some moment => Function.update clocked.movedAt request.ref (some moment)

/-- Requests one after another on orders that nobody has stored so far. -/
def clockedRun (service : OrderService) (orders : OrderRef → Order) (nextRef : OrderRef)
    (requests : List Request) : ClockedWorld :=
  requests.foldl service.clockedStep ⟨World.fresh orders nextRef, fun _ => none⟩

/-- The world beside the clock readings is the world of the run. -/
theorem clockedRun_world (service : OrderService) (orders : OrderRef → Order) (nextRef : OrderRef)
    (requests : List Request) : (service.clockedRun orders nextRef requests).world =
      service.run (World.fresh orders nextRef) requests := by
  have general : ∀ clocked : ClockedWorld, (requests.foldl service.clockedStep clocked).world =
      service.run clocked.world requests := by
    -- Keeping clock readings has no influence on the world.
    induction requests with
    | nil => intro clocked; rfl
    | cons request rest ih => intro clocked; exact ih (service.clockedStep clocked request)
  exact general ⟨World.fresh orders nextRef, fun _ => none⟩

/-- How a request leaves its order: as it was, or moved at a clock reading. -/
inductive Clocks (request : Request) (before after : World) : Prop where
  | kept (order : Order) (appended : List LedgerEntry)
    (write : OrderWrite request.ref before after order appended)
    (history : order.history = (before.orders request.ref).history)
    (updatedAt : order.updatedAt = (before.orders request.ref).updatedAt)
  | moved (order : Order) (appended : List LedgerEntry)
    (write : OrderWrite request.ref before after order appended)
    (call : LifecycleCall) (actor reason : String) (readings : LifecycleReadings)
    (operation : request.operation = .lifecycle call actor reason readings)
    (change : OrderStateChange) (changedAt : change.changedAt = readings.changedAt.isoformat)
    (history : order.history = (before.orders request.ref).history ++ [change])
    (updatedAt : order.updatedAt = change.changedAt)

/-- Every effect of a request leaves its order in one of these ways. -/
theorem Effect.clocks {service : OrderService} {world after : World} {request : Request}
    (effect : Effect service world request after) : Clocks request world after := by
  cases effect with
  | none _ idle =>
    exact .kept _ [] ⟨(Function.update_eq_self _ _).symm, rfl, rfl, Or.inl rfl,
      (List.append_nil _).symm, by simp⟩ rfl rfl
  | registered tenant ref actor stamp allowed =>
    -- Binding an order to its tenant writes neither field.
    have write := service.afterRegister_write ref actor world tenant stamp
    obtain ⟨history, updatedAt⟩ : (bindTenant tenant (world.orders ref)).history =
        (world.orders ref).history ∧
        (bindTenant tenant (world.orders ref)).updatedAt = (world.orders ref).updatedAt := by
      unfold bindTenant
      split
      · exact ⟨rfl, rfl⟩
      · cases tenant <;> exact ⟨rfl, rfl⟩
    exact .kept _ [] write history updatedAt
  | denied tenant ref call actor reason readings valid foreign =>
    exact .moved _ [] (afterMove_write ref call.target actor reason readings world) call actor reason
      readings rfl (requested ref call.target actor reason readings world) rfl rfl rfl
  | changed tenant ref call actor reason readings valid allowed noRefund noSettlement =>
    exact .moved _ [] (service.afterChange_write ref call.target actor reason readings world) call
      actor reason readings rfl (requested ref call.target actor reason readings world) rfl rfl rfl
  | settled tenant ref call actor reason readings valid allowed completed split calculated entry built =>
    exact .moved _ [entry] (service.afterSettlement_write ref .completed actor reason readings world
      (LedgerEntry.new_fields built)) call actor reason readings rfl
      (requested ref .completed actor reason readings world) rfl rfl rfl
  | unrefunded tenant ref actor reason readings valid allowed configured error raised =>
    exact .moved _ [] (service.afterRefund_write ref actor reason readings world) .cancel actor reason
      readings rfl (requested ref .cancelled actor reason readings world) rfl rfl rfl
  | cancelled tenant ref actor reason readings valid allowed refundRef =>
    -- The record of the cancellation writes no order.
    have refunded := service.afterRefund_write ref actor reason readings world
    exact .moved _ [] ⟨refunded.orders, refunded.orderId, refunded.nextRef, refunded.repository,
      refunded.ledger, refunded.owned⟩ .cancel actor reason readings rfl
      (requested ref .cancelled actor reason readings world) rfl rfl rfl
  | reversed tenant ref actor fraction reason entryStamp auditStamp snapshot captured rate reversal
      reversed entry built =>
    exact .kept _ [entry] (service.afterReversal_write ref actor reason world fraction auditStamp
      reversal (LedgerEntry.new_fields built)) rfl rfl

/-- What the feed rests on: order objects mirror their last transition and are stored by their ids. -/
structure Mirrors (clocked : ClockedWorld) : Prop where
  movedLast : ∀ ref, (clocked.world.orders ref).MovedLast (clocked.movedAt ref)
  keyed : ∀ orderId ref, clocked.world.repository.get? orderId = some ref →
    (clocked.world.orders ref).orderId = orderId

/-- Writing one order keeps the repository keyed by the ids of the orders. -/
theorem OrderWrite.keyed {ref : OrderRef} {before after : World} {order : Order}
    {appended : List LedgerEntry} (write : OrderWrite ref before after order appended)
    (keyed : ∀ orderId found, before.repository.get? orderId = some found →
      (before.orders found).orderId = orderId) :
    ∀ orderId found, after.repository.get? orderId = some found →
      (after.orders found).orderId = orderId := by
  -- No order gets another id, and the written one is stored under its own.
  have ids : ∀ found, (after.orders found).orderId = (before.orders found).orderId := by
    intro found
    rw [write.orders]
    by_cases same : found = ref
    · rw [same, Function.update_self, write.orderId]
    · rw [Function.update_of_ne same]
  intro orderId found stored
  rw [ids]
  rcases write.repository with kept | set
  · rw [kept] at stored
    exact keyed orderId found stored
  · rw [set, Dict.get?_set] at stored
    split at stored
    · rename_i same
      cases stored
      exact same.symm
    · exact keyed orderId found stored

/-- Every request keeps the orders mirroring their last transitions. -/
theorem Mirrors.step {service : OrderService} {clocked : ClockedWorld} (mirrors : Mirrors clocked)
    (request : Request) : Mirrors (service.clockedStep clocked request) := by
  have clocks := (step_effect service clocked.world request).clocks
  unfold clockedStep
  generalize service.step clocked.world request = after at clocks
  cases clocks with
  | kept order appended write history updatedAt =>
    have own : after.orders request.ref = order := by rw [write.orders, Function.update_self]
    have still : transitionAt clocked.world after request = none := by
      unfold transitionAt
      split
      · rw [own, history, if_pos rfl]
      · rfl
    refine ⟨?_, write.keyed mirrors.keyed⟩
    rw [still]
    intro ref
    have before := mirrors.movedLast ref
    by_cases same : ref = request.ref
    · -- The written order has the history and the time of update it had.
      subst same
      rw [own]
      unfold Order.MovedLast at before ⊢
      rw [history, updatedAt]
      exact before
    · rw [write.orders, Function.update_of_ne same]
      exact before
  | moved order appended write call actor reason readings operation change changedAt history
      updatedAt =>
    have own : after.orders request.ref = order := by rw [write.orders, Function.update_self]
    have moves : transitionAt clocked.world after request = some readings.changedAt := by
      unfold transitionAt
      rw [operation]
      simp [own, history]
    refine ⟨?_, write.keyed mirrors.keyed⟩
    rw [moves]
    intro ref
    by_cases same : ref = request.ref
    · -- The last entry of its history and the time of update are written together.
      subst same
      simp [own, Order.MovedLast, history, updatedAt, changedAt]
    · simp only [write.orders, Function.update_of_ne same]
      exact mirrors.movedLast ref

/-- The orders mirror their last transitions after every run that starts with unmoved orders. -/
theorem mirrors_clockedRun (service : OrderService) {orders : OrderRef → Order}
    (unmoved : ∀ ref, (orders ref).MovedLast none) (nextRef : OrderRef) (requests : List Request) :
    Mirrors (service.clockedRun orders nextRef requests) := by
  have initial : Mirrors ⟨World.fresh orders nextRef, fun _ => none⟩ := by
    refine ⟨unmoved, ?_⟩
    intro orderId ref found
    cases found
  unfold clockedRun
  generalize (⟨World.fresh orders nextRef, fun _ => none⟩ : ClockedWorld) = clocked at initial
  -- One request at a time.
  induction requests generalizing clocked with
  | nil => exact initial
  | cons request rest ih => exact ih _ (initial.step request)

/--
The change feed gives a tenant's stored orders whose most recent transition is later than an instant.

This holds after every run that starts with unmoved orders, for every instant whose ISO text is asked
for, and no order is listed twice.
-/
theorem changes_since_exact (service : OrderService) {orders : OrderRef → Order}
    (unmoved : ∀ ref, (orders ref).MovedLast none) (nextRef : OrderRef) (requests : List Request)
    (context : TenantContext) (since : DateTime) :
    ∃ refs, (OrderRepository.changesSince (some context) since.isoformat).run
          (service.clockedRun orders nextRef requests).world =
        .ok refs (service.clockedRun orders nextRef requests).world ∧ refs.Nodup ∧
      ∀ ref, ref ∈ refs ↔
        ref ∈ (service.clockedRun orders nextRef requests).world.repository.values ∧
        ((service.clockedRun orders nextRef requests).world.orders ref).tenantId =
          context.tenantId ∧
        ∃ moment, (service.clockedRun orders nextRef requests).movedAt ref = some moment ∧
          since.toMicros < moment.toMicros := by
  have mirrors := mirrors_clockedRun service unmoved nextRef requests
  generalize service.clockedRun orders nextRef requests = clocked at mirrors
  refine ⟨_, rfl, ?_, ?_⟩
  · -- Orders are stored under their ids, so each of them is stored once.
    have once := Dict.nodup_map_values mirrors.keyed
    exact (List.Nodup.of_map _ once).filter _
  · intro ref
    simp only [List.mem_filter, Bool.and_eq_true, decide_eq_true_eq]
    refine and_congr_right fun stored => and_congr_right fun owned => ?_
    have mirrored := mirrors.movedLast ref
    cases moved : clocked.movedAt ref with
    | none =>
      rw [moved] at mirrored
      simp [mirrored.2]
    | some moment =>
      rw [moved] at mirrored
      -- The time of update is the text of that moment, and texts are compared as instants are.
      have filled : moment.isoformat ≠ "" := by
        intro empty
        have chars := congrArg String.toList empty
        simp [DateTime.toList_isoformat] at chars
      simp only [mirrored.2, ne_eq, filled, not_false_eq_true, true_and, Option.some.injEq,
        exists_eq_left']
      exact DateTime.isoformat_lt_iff since moment

/-- An order is registered and reserved at half past nine. -/
def reservedRequests : List Request :=
  [⟨some (sampleContext "tenant-a" "0.10"), 0, .register "clerk" Stamp.sample⟩,
    ⟨some (sampleContext "tenant-a" "0.10"), 0,
      .lifecycle (.transition .reserved) "clerk" "" (sampleReadings (.ok ""))⟩]

/-- A microsecond before that the feed is as it should be. -/
theorem changes_since_reserved :
    ∃ refs, (OrderRepository.changesSince (some (sampleContext "tenant-a" "0.10"))
          (DateTime.isoformat ⟨2026, 8, 12, 9, 29, 59, 999999, by decide⟩)).run
          (sampleService.clockedRun draftOrders 1 reservedRequests).world =
        .ok refs (sampleService.clockedRun draftOrders 1 reservedRequests).world ∧ refs.Nodup ∧
      ∀ ref, ref ∈ refs ↔
        ref ∈ (sampleService.clockedRun draftOrders 1 reservedRequests).world.repository.values ∧
        ((sampleService.clockedRun draftOrders 1 reservedRequests).world.orders ref).tenantId =
          "tenant-a" ∧
        ∃ moment, (sampleService.clockedRun draftOrders 1 reservedRequests).movedAt ref =
            some moment ∧
          DateTime.toMicros ⟨2026, 8, 12, 9, 29, 59, 999999, by decide⟩ < moment.toMicros :=
  changes_since_exact sampleService (fun _ => ⟨rfl, rfl⟩) 1 reservedRequests
    (sampleContext "tenant-a" "0.10") ⟨2026, 8, 12, 9, 29, 59, 999999, by decide⟩

end OrderService

end JolCommerce
