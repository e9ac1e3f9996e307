import JolCommerce.Orders.Runs
import Mathlib.Data.Set.Basic

/-! Which writes in one tenant's context leave the stored orders of all other tenants as they were. -/

namespace JolCommerce

open Python

/-- Owned by a tenant other than the given one; an order without a tenant id is nobody's. -/
def Foreign (bound tenantId : String) : Prop := tenantId ≠ "" ∧ tenantId ≠ bound

private theorem not_allows_iff (context : TenantContext) (tenantId : String) :
    ¬Allows (some context) tenantId ↔ Foreign context.tenantId tenantId := by
  -- The repository's check refuses exactly the foreign orders.
  simp [Allows, Foreign]

private theorem not_foreign_of_allows {context : TenantContext} {tenantId : String}
    (allowed : Allows (some context) tenantId) : ¬Foreign context.tenantId tenantId := by
  -- The repository refuses every foreign order.
  intro foreign
  exact (not_allows_iff context tenantId).mpr foreign allowed

namespace World

/-- The stored orders of a tenant: the ids they are stored under, with their full contents. -/
def storedOrders (world : World) (tenantId : String) : Set (String × Order) :=
  {stored | ∃ ref, world.repository.get? stored.1 = some ref ∧ world.orders ref = stored.2 ∧
    stored.2.tenantId = tenantId}

/-- The stored orders of every tenant other than the bound one are the same. -/
def SameForOthers (bound : String) (before after : World) : Prop :=
  ∀ tenantId, Foreign bound tenantId → after.storedOrders tenantId = before.storedOrders tenantId

/-- The place an order would be stored at holds another tenant's order. -/
def SlotTaken (world : World) (bound orderId : String) : Prop :=
  ∃ ref, world.repository.get? orderId = some ref ∧ Foreign bound (world.orders ref).tenantId

/-- An order object is stored under some id. -/
def IsStored (world : World) (ref : OrderRef) : Prop :=
  ∃ orderId, world.repository.get? orderId = some ref

/-- A write that stores one order which is not foreign, and changes no other order object. -/
structure StoresOwn (bound : String) (ref : OrderRef) (before after : World) : Prop where
  kept : ∀ other, other ≠ ref → after.orders other = before.orders other
  ownBefore : ¬Foreign bound (before.orders ref).tenantId
  ownAfter : ¬Foreign bound (after.orders ref).tenantId
  repository : after.repository = before.repository.set (before.orders ref).orderId ref

/-- Such a write is invisible to the other tenants exactly when it replaces no order of theirs. -/
theorem StoresOwn.sameForOthers_iff {bound : String} {ref : OrderRef} {before after : World}
    (stores : StoresOwn bound ref before after) :
    SameForOthers bound before after ↔ ¬before.SlotTaken bound (before.orders ref).orderId := by
  -- Storing replaces whatever order stood under the id.
  constructor
  · intro same holder
    obtain ⟨taken, held, foreign⟩ := holder
    -- The order that held the place would have to be found there still.
    have found : ((before.orders ref).orderId, before.orders taken) ∈
        before.storedOrders (before.orders taken).tenantId := ⟨taken, held, rfl, rfl⟩
    rw [← same _ foreign] at found
    obtain ⟨now, place, contents, -⟩ := found
    simp only [stores.repository, Dict.get?_set_self, Option.some.injEq] at place
    subst place
    simp only at contents
    rw [← contents] at foreign
    exact stores.ownAfter foreign
  · intro free tenantId foreign
    ext ⟨orderId, contents⟩
    simp only [storedOrders, Set.mem_ofPred_eq, stores.repository, Dict.get?_set]
    by_cases here : orderId = (before.orders ref).orderId
    · -- Neither the stored order nor the one it replaced belongs to another tenant.
      simp only [here, if_true]
      constructor
      · intro owned
        obtain ⟨now, place, same, owner⟩ := owned
        cases place
        rw [← same] at owner
        exact absurd (owner ▸ foreign) stores.ownAfter
      · intro owned
        obtain ⟨held, place, same, owner⟩ := owned
        refine absurd ⟨held, place, ?_⟩ free
        rw [same, owner]
        exact foreign
    · simp only [here, if_false]
      -- Elsewhere the references stay, and a foreign order is not the one that was written.
      have unwritten : ∀ other, before.repository.get? orderId = some other →
          (after.orders other = contents ∧ contents.tenantId = tenantId ↔
            before.orders other = contents ∧ contents.tenantId = tenantId) := by
        intro other _
        by_cases written : other = ref
        · subst written
          constructor
          · intro owned
            obtain ⟨same, owner⟩ := owned
            refine absurd ?_ stores.ownAfter
            rw [same, owner]
            exact foreign
          · intro owned
            obtain ⟨same, owner⟩ := owned
            refine absurd ?_ stores.ownBefore
            rw [same, owner]
            exact foreign
        · rw [stores.kept other written]
      exact exists_congr fun other => and_congr_right fun place => unwritten other place

/-- A moved foreign order is seen by its owner exactly when it is stored. -/
theorem sameForOthers_moved_iff {bound : String} {ref : OrderRef} {before : World}
    {change : OrderStateChange} (foreign : Foreign bound (before.orders ref).tenantId) :
    SameForOthers bound before (before.withOrder ref ((before.orders ref).moved change)) ↔
      ¬before.IsStored ref := by
  constructor
  · intro same kept
    obtain ⟨orderId, place⟩ := kept
    -- The owner had the order as it was, so the moved one would have to be the same.
    have found : (orderId, before.orders ref) ∈
        before.storedOrders (before.orders ref).tenantId := ⟨ref, place, rfl, rfl⟩
    rw [← same _ foreign] at found
    obtain ⟨now, nowPlace, contents, -⟩ := found
    simp only [withOrder_repository, place, Option.some.injEq] at nowPlace
    subst nowPlace
    -- The history has grown, so the contents differ.
    have history := congrArg (fun order => order.history.length) contents
    simp [Order.moved] at history
  · intro absent tenantId _
    ext ⟨orderId, contents⟩
    simp only [storedOrders, Set.mem_ofPred_eq, withOrder_repository]
    refine exists_congr fun other => and_congr_right fun place => ?_
    have unwritten : other ≠ ref := fun same => absent ⟨orderId, same ▸ place⟩
    rw [withOrder_other _ _ unwritten]

end World

namespace OrderService

/-- The calls that write orders. -/
inductive WriteCall where
  | save
  | register (actor : String) (stamp : Stamp)
  | lifecycle (call : LifecycleCall) (actor reason : String) (readings : LifecycleReadings)

/-- The world after a write in the context of a bound tenant, whether it returned or raised. -/
def write (service : OrderService) (context : TenantContext) (ref : OrderRef) (world : World) :
    WriteCall → World
  | .save => stateAfter (OrderRepository.save (some context) ref) world
  | .register actor stamp => service.step world ⟨some context, ref, .register actor stamp⟩
  | .lifecycle call actor reason readings =>
    service.step world ⟨some context, ref, .lifecycle call actor reason readings⟩

/-- The order itself passes the state machine, where the call is subject to it. -/
def WriteCall.Proceeds (world : World) (ref : OrderRef) : WriteCall → Prop
  | .lifecycle call _ _ _ => call.target ∈ validTransitions (world.orders ref).status
  | _ => True

/-- What a write must avoid: replacing another tenant's order, or moving a stored one. -/
def WriteCall.Spares (context : TenantContext) (ref : OrderRef) (world : World) (call : WriteCall) :
    Prop :=
  call.Proceeds world ref →
    (¬Foreign context.tenantId (world.orders ref).tenantId →
      ¬world.SlotTaken context.tenantId (world.orders ref).orderId) ∧
    (Foreign context.tenantId (world.orders ref).tenantId →
      (∃ lifecycleCall actor reason readings,
        call = .lifecycle lifecycleCall actor reason readings) → ¬world.IsStored ref)

/-- A lifecycle call on an own order stores an own order. -/
theorem StoresOrder.own {bound : String} {ref : OrderRef} {before after : World}
    (stores : StoresOrder ref before after) (own : ¬Foreign bound (before.orders ref).tenantId) :
    World.StoresOwn bound ref before after :=
  ⟨stores.kept, own, by rw [stores.owner]; exact own, stores.repository⟩

/-- Registering an own or unowned order stores it under its id. -/
theorem afterRegister_storesOwn (service : OrderService) (context : TenantContext) (ref : OrderRef)
    (actor : String) (stamp : Stamp) {world : World}
    (own : ¬Foreign context.tenantId (world.orders ref).tenantId) :
    World.StoresOwn context.tenantId ref world
      (service.afterRegister (some context) ref actor world stamp) where
  kept := fun other different => World.withOrder_other world _ different
  ownBefore := own
  ownAfter := by
    -- Binding an order that the tenant may touch leaves one that it may touch.
    have allowed : Allows (some context) (world.orders ref).tenantId :=
      not_not.mp fun denied => own ((not_allows_iff context _).mp denied)
    have bound := (allows_bindTenant (some context) (world.orders ref)).mpr allowed
    simp only [afterRegister, World.logged_orders, World.stored_orders, World.withOrder_self]
    exact not_foreign_of_allows bound
  repository := by
    simp [afterRegister, bindTenant_orderId]

/-- A write that stores an own order spares the other tenants exactly when its place is free. -/
theorem spares_own_iff {context : TenantContext} {ref : OrderRef} {world after : World}
    {call : WriteCall} (stores : World.StoresOwn context.tenantId ref world after)
    (proceeds : call.Proceeds world ref) :
    World.SameForOthers context.tenantId world after ↔ call.Spares context ref world := by
  -- An own order is no foreign one, so that only the place counts.
  rw [stores.sameForOthers_iff]
  constructor
  · exact fun free _ => ⟨fun _ => free, fun foreign => absurd foreign stores.ownBefore⟩
  · exact fun spares => (spares proceeds).1 stores.ownBefore

/-- A write that changed nothing spares everyone. -/
theorem spares_of_same {context : TenantContext} {ref : OrderRef} {world : World} {call : WriteCall}
    (spares : call.Spares context ref world) :
    World.SameForOthers context.tenantId world world ↔ call.Spares context ref world :=
  iff_of_true (fun _ _ => rfl) spares

private theorem spares_of_denied {context : TenantContext} {ref : OrderRef} {world : World}
    {call : WriteCall} (denied : ¬Allows (some context) (world.orders ref).tenantId)
    (noLifecycle : ∀ lifecycleCall actor reason readings,
      call ≠ .lifecycle lifecycleCall actor reason readings) : call.Spares context ref world := by
  -- A foreign order that is only saved or registered is refused before anything is written.
  intro proceeds
  refine ⟨fun own => absurd ((not_allows_iff context _).mp denied) own, ?_⟩
  intro foreign moves
  obtain ⟨lifecycleCall, actor, reason, readings, same⟩ := moves
  exact absurd same (noLifecycle lifecycleCall actor reason readings)

/--
A write in one tenant's context leaves the stored orders of every other tenant as they were exactly
when an own order's place is not held by a foreign one, and a foreign order that the state machine
lets move is not stored.
-/
theorem write_frame_iff (service : OrderService) (context : TenantContext) (ref : OrderRef)
    (world : World) (call : WriteCall) :
    World.SameForOthers context.tenantId world (service.write context ref world call) ↔
      call.Spares context ref world := by
  -- A save and a registration are refused or store the order; a lifecycle call may move a foreign
  -- order before it is refused.
  cases call with
  | save =>
    by_cases allowed : Allows (some context) (world.orders ref).tenantId
    · have own := not_foreign_of_allows allowed
      rw [write, stateAfter_ok (OrderRepository.save_allowed allowed)]
      exact spares_own_iff ⟨fun _ _ => rfl, own, own, rfl⟩ trivial
    · obtain ⟨error, denied⟩ := OrderRepository.save_denied allowed
      rw [write, stateAfter_error denied]
      apply spares_of_same
      exact spares_of_denied allowed (by simp)
  | register actor stamp =>
    have outcome := register_outcome service (some context) ref actor world stamp
    simp only [write, step, stateAfter]
    generalize (service.register (some context) ref actor stamp).run world = result at outcome
    cases outcome with
    | denied foreign error =>
      apply spares_of_same
      exact spares_of_denied foreign (by simp)
    | registered allowed =>
      exact spares_own_iff (service.afterRegister_storesOwn context ref actor stamp
        (not_foreign_of_allows allowed)) trivial
  | lifecycle call actor reason readings =>
    have effect := step_effect service world ⟨some context, ref, .lifecycle call actor reason readings⟩
    simp only [write]
    generalize service.step world ⟨some context, ref, .lifecycle call actor reason readings⟩ = after
      at effect
    cases effect with
    | none _ idle =>
      apply spares_of_same
      intro proceeds
      exact absurd proceeds (idle call actor reason readings rfl)
    | denied _ _ _ _ _ _ valid foreign =>
      -- The order was moved before the save refused it, which its owner sees if it is stored.
      have other := (not_allows_iff context _).mp foreign
      rw [afterMove, World.sameForOthers_moved_iff other]
      constructor
      · exact fun absent _ => ⟨fun own => absurd other own, fun _ _ => absent⟩
      · exact fun spares => (spares valid).2 other ⟨call, actor, reason, readings, rfl⟩
    | changed _ _ _ _ _ _ valid allowed _ _ =>
      exact spares_own_iff ((service.afterChange_stores ref call.target actor reason readings
        world).own (not_foreign_of_allows allowed)) valid
    | settled _ _ _ _ _ _ valid allowed completed split calculated entry built =>
      exact spares_own_iff ((service.afterSettlement_stores ref .completed actor reason readings
        world split entry).own (not_foreign_of_allows allowed)) (completed ▸ valid : call.target ∈ _)
    | unrefunded _ _ _ _ _ valid allowed configured error raised =>
      exact spares_own_iff
        ((service.afterRefund_stores ref actor reason readings world).own (not_foreign_of_allows allowed)) valid
    | cancelled _ _ _ _ _ valid allowed refundRef =>
      exact spares_own_iff ((service.afterCancel_stores ref actor reason readings world
        refundRef).own (not_foreign_of_allows allowed)) valid

/-- Unowned draft orders that all carry one id. -/
def collidingOrders (_ : OrderRef) : Order where
  orderId := "ORD-1"
  externalId := "ext"
  createdAt := "2026-08-12T09:30:00+00:00"

/-- The world once one tenant has registered the first of them. -/
def registeredWorld : World :=
  sampleService.step (World.fresh collidingOrders 2)
    ⟨some (sampleContext "tenant-a" "0.10"), 0, .register "clerk" Stamp.sample⟩

/-- A second tenant registering an order with the same id removes the first tenant's order. -/
theorem register_replaces_foreign :
    ¬World.SameForOthers "tenant-b" registeredWorld
      (sampleService.write (sampleContext "tenant-b" "0.10") 1 registeredWorld
        (.register "clerk" Stamp.sample)) := by
  intro same
  have found : ("ORD-1", registeredWorld.orders 0) ∈ registeredWorld.storedOrders "tenant-a" :=
    ⟨0, rfl, rfl, rfl⟩
  rw [← same "tenant-a" ⟨by decide, by decide⟩] at found
  obtain ⟨ref, place, contents, owner⟩ := found
  -- The id now leads to the second tenant's order.
  have second : (sampleService.write (sampleContext "tenant-b" "0.10") 1 registeredWorld
      (.register "clerk" Stamp.sample)).repository.get? "ORD-1" = some 1 := rfl
  cases second.symm.trans place
  have tenants := congrArg Order.tenantId contents
  exact absurd tenants (by decide)

end OrderService

end JolCommerce
