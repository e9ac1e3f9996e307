import JolCommerce.Orders.History

/-! What no request to either order service ever takes back: terms, owners, histories, books, logs. -/

namespace JolCommerce

open Python

/-- How often an order of a status can be moved at most. -/
def OrderStatus.remaining : OrderStatus → Nat
  | draft => 5
  | reserved => 4
  | confirmed => 3
  | inProgress => 2
  | paymentPending => 1
  | completed => 0
  | cancelled => 0

/-- Every valid transition leaves fewer moves. -/
theorem remaining_lt {source target : OrderStatus} (valid : target ∈ validTransitions source) :
    target.remaining < source.remaining := by
  cases source <;> cases target <;> simp_all [validTransitions, OrderStatus.remaining]

namespace Order

/-- What was agreed when an order was placed: everything in it that no call writes. -/
def terms (order : Order) : Order where
  __ := order
  tenantId := ""
  branchId := ""
  status := .draft
  updatedAt := ""
  history := []
  commissionSnapshot := none

/-- What moving and settling an order write. -/
def progress (order : Order) : OrderStatus × String × List OrderStateChange × Option CommissionSnapshot :=
  (order.status, order.updatedAt, order.history, order.commissionSnapshot)

/--
What a later state of an order keeps of an earlier one.

The history only grows, each entry of it uses up a move, and an order that has no move left is not
written again. An owner stays the owner.
-/
structure Extends (before after : Order) : Prop where
  terms : after.terms = before.terms
  owner : before.tenantId ≠ "" → after.tenantId = before.tenantId ∧ after.branchId = before.branchId
  history : before.history <+: after.history
  moves : after.history.length + after.status.remaining ≤
    before.history.length + before.status.remaining
  closed : before.status.remaining = 0 → after.progress = before.progress

/-- An order keeps all of itself. -/
theorem extends_refl (order : Order) : order.Extends order where
  terms := rfl
  owner := fun _ => ⟨rfl, rfl⟩
  history := List.prefix_rfl
  moves := Nat.le_refl _
  closed := fun _ => rfl

/-- What is kept twice is kept. -/
theorem Extends.trans {before middle after : Order} (first : before.Extends middle)
    (second : middle.Extends after) : before.Extends after where
  terms := second.terms.trans first.terms
  owner := by
    intro owned
    obtain ⟨tenant, branch⟩ := first.owner owned
    obtain ⟨later, laterBranch⟩ := second.owner (by rwa [tenant])
    exact ⟨later.trans tenant, laterBranch.trans branch⟩
  history := first.history.trans second.history
  moves := second.moves.trans first.moves
  closed := by
    intro closed
    have kept := first.closed closed
    have status : middle.status = before.status := congrArg Prod.fst kept
    exact (second.closed (by rwa [status])).trans kept

/-- A valid transition adds an entry and leaves fewer moves. -/
theorem extends_moved {order : Order} {change : OrderStateChange}
    (valid : change.toStatus ∈ validTransitions order.status) : order.Extends (order.moved change) where
  terms := rfl
  owner := fun _ => ⟨rfl, rfl⟩
  history := List.prefix_append _ _
  moves := by
    have fewer := remaining_lt valid
    simp only [Order.moved, List.length_append, List.length_singleton]
    omega
  closed := by
    intro closed
    have fewer := remaining_lt valid
    omega

/-- So does one whose settlement is captured. -/
theorem extends_settled {order : Order} {change : OrderStateChange} (snapshot : CommissionSnapshot)
    (valid : change.toStatus ∈ validTransitions order.status) :
    order.Extends { order.moved change with commissionSnapshot := some snapshot } where
  terms := rfl
  owner := (extends_moved valid).owner
  history := (extends_moved valid).history
  moves := (extends_moved valid).moves
  closed := by
    intro closed
    have fewer := remaining_lt valid
    omega

/-- Binding an order to a tenant writes an owner where there was none. -/
theorem extends_bindTenant (tenant : Option TenantContext) (order : Order) :
    order.Extends (OrderService.bindTenant tenant order) := by
  unfold OrderService.bindTenant
  split
  · exact extends_refl order
  · rename_i unowned
    cases tenant with
    | none => exact extends_refl order
    | some context =>
      exact ⟨rfl, fun owned => absurd owned unowned, List.prefix_rfl, Nat.le_refl _, fun _ => rfl⟩

end Order

namespace World

/-- The books and logs of a later world begin with those of an earlier one. -/
structure Grows (before after : World) : Prop where
  repository : ∀ orderId, before.repository.get? orderId ≠ none →
    after.repository.get? orderId ≠ none
  ledger : before.ledger.entries <+: after.ledger.entries
  audit : before.audit.entries <+: after.audit.entries
  refundCalls : before.refundCalls <+: after.refundCalls

/-- Nothing is taken back by doing nothing. -/
theorem grows_refl (world : World) : world.Grows world :=
  ⟨fun _ found => found, List.prefix_rfl, List.prefix_rfl, List.prefix_rfl⟩

/-- Nor by two steps that take nothing back. -/
theorem Grows.trans {before middle after : World} (first : before.Grows middle)
    (second : middle.Grows after) : before.Grows after where
  repository := fun orderId found => second.repository orderId (first.repository orderId found)
  ledger := first.ledger.trans second.ledger
  audit := first.audit.trans second.audit
  refundCalls := first.refundCalls.trans second.refundCalls

/-- Writing an order object is not seen in the books. -/
theorem grows_withOrder (world : World) (ref : OrderRef) (order : Order) :
    world.Grows (world.withOrder ref order) :=
  ⟨fun _ found => found, List.prefix_rfl, List.prefix_rfl, List.prefix_rfl⟩

/-- A stored order id stays one. -/
theorem grows_stored (world : World) (ref : OrderRef) : world.Grows (world.stored ref) where
  repository := by
    intro orderId found
    rw [stored_repository, Dict.get?_set]
    split
    · simp
    · exact found
  ledger := List.prefix_rfl
  audit := List.prefix_rfl
  refundCalls := List.prefix_rfl

/-- The audit log is appended to. -/
theorem grows_logged (world : World) (sha256 : String → String) (stamp : Stamp)
    (call : LogCall JsonObject) : world.Grows (world.logged sha256 stamp call) :=
  ⟨fun _ found => found, List.prefix_rfl, List.prefix_append _ _, List.prefix_rfl⟩

/-- So is the ledger. -/
theorem grows_ledger (world : World) (entry : LedgerEntry) :
    world.Grows { world with ledger := world.ledger.append entry } :=
  ⟨fun _ found => found, List.prefix_append _ _, List.prefix_rfl, List.prefix_rfl⟩

/-- And the list of refunds that were asked for. -/
theorem grows_refundCalls (world : World) (ref : OrderRef) :
    world.Grows { world with refundCalls := world.refundCalls ++ [ref] } :=
  ⟨fun _ found => found, List.prefix_rfl, List.prefix_rfl, List.prefix_append _ _⟩

/-- A later world: its books and logs begin with the earlier ones, and so does every order. -/
structure Extends (before after : World) : Prop where
  grows : before.Grows after
  orders : ∀ ref, (before.orders ref).Extends (after.orders ref)

/-- Only one order object was written, and it keeps what it has to. -/
theorem extends_of_others {before after : World} {ref : OrderRef} (grows : before.Grows after)
    (others : ∀ other, other ≠ ref → after.orders other = before.orders other)
    (written : (before.orders ref).Extends (after.orders ref)) : before.Extends after where
  grows := grows
  orders := by
    intro other
    by_cases same : other = ref
    · rw [same]
      exact written
    · rw [others other same]
      exact Order.extends_refl _

end World

namespace OrderService

section Effects

variable (service : OrderService) (ref : OrderRef) (newStatus : OrderStatus)
  (actor reason : String) (readings : LifecycleReadings) (world : World)

/-- A status change stores an order and appends to the log. -/
theorem afterChange_grows :
    world.Grows (service.afterChange ref newStatus actor reason readings world) :=
  ((World.grows_withOrder world ref _).trans (World.grows_stored _ ref)).trans
    (World.grows_logged _ _ _ _)

/-- A settlement appends to the ledger and to the log again. -/
theorem afterSettlement_grows (split : CommissionSplit) (entry : LedgerEntry) :
    world.Grows (service.afterSettlement ref newStatus actor reason readings world split entry) :=
  (service.afterChange_grows ref newStatus actor reason readings world).trans
    (((World.grows_withOrder _ ref _).trans (World.grows_ledger _ entry)).trans
      (World.grows_logged _ _ _ _))

/-- The refund workflow appends to the list of its calls. -/
theorem afterRefund_grows : world.Grows (service.afterRefund ref actor reason readings world) := by
  have changed := service.afterChange_grows ref .cancelled actor reason readings world
  unfold afterRefund
  split
  · exact changed.trans (World.grows_refundCalls _ ref)
  · exact changed

variable {newStatus}

/-- A status change moves its order and writes no other. -/
theorem afterChange_extends (valid : newStatus ∈ validTransitions (world.orders ref).status) :
    world.Extends (service.afterChange ref newStatus actor reason readings world) := by
  have stores := service.afterChange_stores ref newStatus actor reason readings world
  refine World.extends_of_others
    (service.afterChange_grows ref newStatus actor reason readings world) stores.kept ?_
  rw [afterChange_order]
  exact Order.extends_moved valid

/-- So does a settlement, which captures the split in it. -/
theorem afterSettlement_extends (valid : newStatus ∈ validTransitions (world.orders ref).status)
    (split : CommissionSplit) (entry : LedgerEntry) :
    world.Extends
      (service.afterSettlement ref newStatus actor reason readings world split entry) := by
  have stores := service.afterSettlement_stores ref newStatus actor reason readings world split entry
  have written : (service.afterSettlement ref newStatus actor reason readings world split
      entry).orders ref = { (world.orders ref).moved
        (requested ref newStatus actor reason readings world) with
        commissionSnapshot := some (snapshotOf split) } := by
    simp only [afterSettlement, World.logged_orders, afterChange_order]
    exact World.withOrder_self _ _ _
  refine World.extends_of_others
    (service.afterSettlement_grows ref newStatus actor reason readings world split entry)
    stores.kept ?_
  rw [written]
  exact Order.extends_settled (snapshotOf split) valid

/-- And the refund workflow leaves the cancelled order as it is. -/
theorem afterRefund_extends (valid : .cancelled ∈ validTransitions (world.orders ref).status) :
    world.Extends (service.afterRefund ref actor reason readings world) := by
  have changed := service.afterChange_extends ref actor reason readings world valid
  have orders : (service.afterRefund ref actor reason readings world).orders =
      (service.afterChange ref .cancelled actor reason readings world).orders := by
    unfold afterRefund
    split <;> rfl
  refine ⟨service.afterRefund_grows ref actor reason readings world, fun other => ?_⟩
  rw [orders]
  exact changed.orders other

end Effects

/-- No request to the order service takes anything back. -/
theorem Effect.extends {service : OrderService} {world after : World} {request : Request}
    (effect : Effect service world request after) : world.Extends after := by
  cases effect with
  | none _ idle => exact ⟨World.grows_refl world, fun ref => Order.extends_refl _⟩
  | registered tenant ref actor stamp allowed =>
    have grows : world.Grows (service.afterRegister tenant ref actor world stamp) :=
      ((World.grows_withOrder world ref _).trans (World.grows_stored _ ref)).trans
        (World.grows_logged _ _ _ _)
    refine World.extends_of_others grows (fun other different =>
      World.withOrder_other world _ different) ?_
    show (world.orders ref).Extends ((world.withOrder ref (bindTenant tenant
      (world.orders ref))).orders ref)
    rw [World.withOrder_self]
    exact Order.extends_bindTenant tenant _
  | denied tenant ref call actor reason readings valid foreign =>
    refine World.extends_of_others (World.grows_withOrder world ref _)
      (fun other different => World.withOrder_other world _ different) ?_
    rw [afterMove_order]
    exact Order.extends_moved valid
  | changed tenant ref call actor reason readings valid allowed noRefund noSettlement =>
    exact service.afterChange_extends ref actor reason readings world valid
  | settled tenant ref call actor reason readings valid allowed completed split calculated entry built =>
    exact service.afterSettlement_extends ref actor reason readings world valid split entry
  | unrefunded tenant ref actor reason readings valid allowed configured error raised =>
    exact service.afterRefund_extends ref actor reason readings world valid
  | cancelled tenant ref actor reason readings valid allowed refundRef =>
    have refunded := service.afterRefund_extends ref actor reason readings world valid
    exact ⟨refunded.grows.trans (World.grows_logged _ _ _ _), refunded.orders⟩
  | reversed tenant ref actor fraction reason entryStamp auditStamp snapshot captured rate reversal
      reversed entry built =>
    exact ⟨(World.grows_ledger world entry).trans (World.grows_logged _ _ _ _),
      fun ref => Order.extends_refl _⟩

end OrderService

namespace Shop

/-- A later shop: its world extends the earlier one, and its events begin with the earlier ones. -/
structure Extends (before after : Shop) : Prop where
  world : before.world.Extends after.world
  events : before.events <+: after.events

/-- No request to either service takes anything back. -/
theorem step_extends (service : OrderService) (shop : Shop) (request : ShopRequest) :
    shop.Extends (step service shop request) := by
  have effect := step_effect service shop request
  generalize step service shop request = after at effect ⊢
  cases effect with
  | service request world effect => exact ⟨effect.extends, List.prefix_rfl⟩
  | refused ref call =>
    exact ⟨⟨World.grows_refl _, fun ref => Order.extends_refl _⟩, List.prefix_rfl⟩
  | advanced ref call change event valid source =>
    refine ⟨World.extends_of_others (World.grows_withOrder _ ref _) (fun other different =>
      World.withOrder_other _ _ different) ?_, List.prefix_append _ _⟩
    show (shop.world.orders ref).Extends ((shop.world.withOrder ref _).orders ref)
    rw [World.withOrder_self]
    exact Order.extends_moved valid

/--
No run of requests to the order and fulfillment services takes anything back.

The ledger, the audit log, the refunds asked for and the events only grow at the end, and no order id
is forgotten. The terms of an order never change, nor does an owner it has. Its history only grows,
by five entries at most, and an order once completed or cancelled is not moved or settled again.
-/
theorem run_extends (service : OrderService) (shop : Shop) (requests : List ShopRequest) :
    shop.Extends (requests.foldl (step service) shop) ∧
      ∀ ref, ((requests.foldl (step service) shop).world.orders ref).history.length ≤
        (shop.world.orders ref).history.length + 5 := by
  have related : shop.Extends (requests.foldl (step service) shop) := by
    refine Run.foldl_related (step service) ?_ ?_
      (step_extends service) shop requests
    · intro shop
      exact ⟨⟨World.grows_refl _, fun ref => Order.extends_refl _⟩, List.prefix_rfl⟩
    · intro first second third earlier later
      exact ⟨⟨earlier.world.grows.trans later.world.grows, fun ref =>
        (earlier.world.orders ref).trans (later.world.orders ref)⟩,
        earlier.events.trans later.events⟩
  refine ⟨related, fun ref => ?_⟩
  have moves := (related.world.orders ref).moves
  have most : (shop.world.orders ref).status.remaining ≤ 5 := by
    cases (shop.world.orders ref).status <;> decide
  omega

end Shop

end JolCommerce
