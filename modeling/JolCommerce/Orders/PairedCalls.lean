import JolCommerce.Orders.Pairing

/-! The service's calls on the two objects of a pair: the same result, and a pair again. -/

namespace JolCommerce

open Python Run

/-- A pair whose objects have the given contents. -/
structure PairedAt (tenantId : String) (ref twin : OrderRef) (order : Order)
    (shared own : World) : Prop where
  paired : Paired tenantId ref twin shared own
  contents : shared.orders ref = order

/-- Both calls return the same or raise the same, and leave a pair. -/
def ActsAlike {α : Type} (tenantId : String) (ref twin : OrderRef) (first second : ServiceM α) :
    Prop :=
  Simulates (Paired tenantId ref twin) first second
    (fun value result shared own => result = value ∧ Paired tenantId ref twin shared own)
    (Paired tenantId ref twin)

section Rules

variable {α β γ : Type} {tenantId : String} {ref twin : OrderRef} {order : Order}
  {returns : α → β → World → World → Prop} {raises : World → World → Prop}

/-- What a computation without effects gives is the same on both sides. -/
theorem simulates_lift_bind {before : World → World → Prop} {result : Except PyError γ}
    {next : γ → ServiceM α} {further : γ → ServiceM β}
    (raised : ∀ shared own, before shared own → raises shared own)
    (tail : ∀ value, result = .ok value →
      Simulates before (next value) (further value) returns raises) :
    Simulates before (ServiceM.lift result >>= next) (ServiceM.lift result >>= further) returns
      raises := by
  intro shared own start
  cases result with
  | error error => exact ⟨rfl, raised shared own start⟩
  | ok value => exact tail value rfl shared own start

/-- Code that reads its state knows from then on what its order contains. -/
theorem simulates_order_bind {next : World → ServiceM α} {further : World → ServiceM β}
    (tail : ∀ shared own, Paired tenantId ref twin shared own →
      Simulates (PairedAt tenantId ref twin (shared.orders ref)) (next shared) (further own) returns
        raises) :
    Simulates (Paired tenantId ref twin) (get >>= next) (get >>= further) returns raises := by
  refine simulates_get_bind fun shared own paired => ?_
  refine (tail shared own paired).pre fun now there here => ?_
  rw [here.1, here.2]
  exact ⟨paired, rfl⟩

/-- Code whose order is known reads what is known. -/
theorem simulates_known_bind {next : World → ServiceM α} {further : World → ServiceM β}
    (tail : ∀ shared own, PairedAt tenantId ref twin order shared own →
      Simulates (PairedAt tenantId ref twin order) (next shared) (further own) returns raises) :
    Simulates (PairedAt tenantId ref twin order) (get >>= next) (get >>= further) returns
      raises := by
  refine simulates_get_bind fun shared own start => ?_
  refine (tail shared own start).pre fun now there here => ?_
  rw [here.1, here.2]
  exact start

/-- Writing new contents under the old id and owner. -/
theorem PairedAt.written {shared own : World} (start : PairedAt tenantId ref twin order shared own)
    {written : Order} (named : written.orderId = order.orderId)
    (owner : written.tenantId = order.tenantId) :
    PairedAt tenantId ref twin written (shared.withOrder ref written)
      (own.withOrder twin written) := by
  refine ⟨start.paired.withOrder ?_ ?_, World.withOrder_self _ _ _⟩
  · rw [start.contents, named]
  · rw [start.contents, owner]

/-- Logging changes no order. -/
theorem PairedAt.logged {shared own : World} (start : PairedAt tenantId ref twin order shared own)
    (sha256 : String → String) (stamp : Stamp) (call other : LogCall JsonObject) :
    PairedAt tenantId ref twin order (shared.logged sha256 stamp call)
      (own.logged sha256 stamp other) :=
  ⟨start.paired.logged sha256 stamp call other, start.contents⟩

end Rules

namespace OrderService

variable (service : OrderService) (tenant : Option TenantContext) {tenantId : String}
  (named : tenantId ≠ "") {ref twin : OrderRef}

include named in
/-- The repository treats both objects of a pair alike. -/
theorem save_alike (order : Order) :
    Simulates (PairedAt tenantId ref twin order) (OrderRepository.save tenant ref)
      (OrderRepository.save tenant twin) (fun _ _ => PairedAt tenantId ref twin order)
      (Paired tenantId ref twin) := by
  -- The check looks at the owner, which is the same.
  unfold OrderRepository.save
  refine simulates_known_bind fun shared own start => ?_
  dsimp only
  rw [start.paired.same, start.contents]
  refine simulates_lift_bind (fun shared own start => start.paired) fun value checked => ?_
  intro shared own start
  exact ⟨start.paired.stored named, start.contents⟩

/-- A settlement captures the same split in both worlds. -/
theorem settleCommission_alike (actor : String) (readings : LifecycleReadings) :
    ActsAlike tenantId ref twin (service.settleCommission tenant ref actor readings)
      (service.settleCommission tenant twin actor readings) := by
  unfold settleCommission ActsAlike
  -- The amount is read off the order, the rate off the tenant that is bound.
  refine simulates_order_bind fun shared own paired => ?_
  dsimp only
  rw [paired.same]
  refine simulates_lift_bind (fun shared own start => start.paired) fun split calculated => ?_
  refine simulates_modify_bind (fun shared own start => start.written rfl rfl) ?_
  refine simulates_lift_bind (fun shared own start => start.paired) fun entry built => ?_
  -- The entry carries the owner of the order, so that both ledgers keep it.
  have entryOwner : entry.tenantId = tenantId :=
    (congrArg LedgerArguments.tenantId (LedgerEntry.new_fields built)).trans paired.owner
  refine simulates_modify_bind 
    (fun shared own start => start.paired.appended entryOwner) ?_
  intro shared own start
  exact ⟨rfl, start.logged _ _ _ _⟩

include named in
/-- A transition moves both objects alike. -/
theorem transition_alike (newStatus : OrderStatus) (actor reason : String)
    (readings : LifecycleReadings) :
    ActsAlike tenantId ref twin (service.transition tenant ref newStatus actor reason readings)
      (service.transition tenant twin newStatus actor reason readings) := by
  unfold transition ActsAlike
  refine simulates_order_bind fun shared own paired => ?_
  dsimp only
  rw [paired.same]
  refine simulates_lift_bind (fun shared own start => start.paired) fun moved moves => ?_
  -- The moved order is the old one with another status and a longer history.
  have fields : moved.2.orderId = (shared.orders ref).orderId ∧
      moved.2.tenantId = (shared.orders ref).tenantId := by
    unfold Order.transitionTo at moves
    split at moves
    · cases moves
      exact ⟨rfl, rfl⟩
    · cases moves
  refine simulates_modify_bind (fun shared own start => start.written fields.1 fields.2) ?_
  refine simulates_bind (save_alike tenant named moved.2) fun _ _ => ?_
  refine simulates_modify_bind (fun shared own start => start.logged _ _ _ _) ?_
  -- Only a completion goes on to the settlement.
  refine simulates_ite (fun completed => ?_) fun open_ => ?_
  · refine simulates_bind ((settleCommission_alike service tenant actor readings).pre
      fun shared own start => start.paired) fun _ _ => ?_
    exact simulates_pure fun shared own start => ⟨rfl, start.2⟩
  · exact simulates_pure fun shared own start => ⟨rfl, start.paired⟩

/-- The refund workflow looks at no order. -/
theorem refund_alike (readings : LifecycleReadings) :
    ActsAlike tenantId ref twin (service.refund ref readings) (service.refund twin readings) := by
  unfold refund ActsAlike
  refine simulates_ite (fun configured => ?_) fun unconfigured => ?_
  · refine simulates_modify_bind 
      (fun shared own start => start.of_fields ⟨rfl, rfl, rfl, rfl⟩ ⟨rfl, rfl, rfl, rfl⟩) ?_
    -- The callback gives or raises the same on both sides.
    intro shared own start
    cases readings.refund with
    | ok refundRef => exact ⟨rfl, start⟩
    | error error => exact ⟨rfl, start⟩
  · exact simulates_pure fun shared own start => ⟨rfl, start⟩

include named in
/-- A cancellation does the same to both objects. -/
theorem cancel_alike (actor reason : String) (readings : LifecycleReadings) :
    ActsAlike tenantId ref twin (service.cancel tenant ref actor reason readings)
      (service.cancel tenant twin actor reason readings) := by
  unfold cancel ActsAlike
  refine simulates_bind (transition_alike service tenant named .cancelled actor reason readings)
    fun change change' => ?_
  refine simulates_fact fun sameChange => ?_
  refine simulates_bind (refund_alike service readings) fun refundRef refundRef' => ?_
  refine simulates_fact fun sameRef => ?_
  refine simulates_order_bind fun shared own paired => ?_
  dsimp only
  rw [paired.same]
  refine simulates_modify_bind (fun shared own start => start.logged _ _ _ _) ?_
  exact simulates_pure fun shared own start => ⟨sameChange, start.paired⟩

include named in
/-- A registration stores both objects, and binds nothing where the order has its owner already. -/
theorem register_alike (order : Order) (actor : String) (stamp : Stamp) :
    Simulates (PairedAt tenantId ref twin order) (service.register tenant ref actor stamp)
      (service.register tenant twin actor stamp) (fun _ _ => PairedAt tenantId ref twin order)
      (Paired tenantId ref twin) := by
  unfold register
  -- The order is owned, so that binding writes it back as it is.
  have bound : ∀ shared own, PairedAt tenantId ref twin order shared own →
      PairedAt tenantId ref twin order
        (shared.withOrder ref (bindTenant tenant (shared.orders ref)))
        (own.withOrder twin (bindTenant tenant (own.orders twin))) := by
    intro shared own start
    have owned : order.tenantId ≠ "" := by
      rw [← start.contents, start.paired.owner]
      exact named
    rw [start.paired.same, start.contents, bindTenant_owned tenant owned]
    exact start.written rfl rfl
  refine simulates_modify_bind bound ?_
  refine simulates_bind (save_alike tenant named order) fun _ _ => ?_
  refine simulates_known_bind fun shared own start => ?_
  exact fun shared own start => start.logged _ _ _ _

end OrderService

end JolCommerce
