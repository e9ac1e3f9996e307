import JolCommerce.Orders.ServiceLaws

/-! When a lifecycle call that raises leaves everything as it was. -/

namespace JolCommerce

open Python

namespace OrderService

/-- The three lifecycle calls. -/
inductive LifecycleCall where
  | transition (newStatus : OrderStatus)
  | complete
  | cancel
  deriving DecidableEq

/-- The status a call moves its order to. -/
def LifecycleCall.target : LifecycleCall → OrderStatus
  | .transition newStatus => newStatus
  | .complete => .completed
  | .cancel => .cancelled

/-- The service method a call stands for. -/
def lifecycle (service : OrderService) (tenant : Option TenantContext) (ref : OrderRef)
    (actor reason : String) (readings : LifecycleReadings) :
    LifecycleCall → ServiceM OrderStateChange
  | .transition newStatus => service.transition tenant ref newStatus actor reason readings
  | .complete => service.complete tenant ref actor reason readings
  | .cancel => service.cancel tenant ref actor reason readings

/-- The order, the repository, the ledger and the audit log are as they were. -/
structure Untouched (ref : OrderRef) (before after : World) : Prop where
  status : (after.orders ref).status = (before.orders ref).status
  history : (after.orders ref).history = (before.orders ref).history
  updatedAt : (after.orders ref).updatedAt = (before.orders ref).updatedAt
  commissionSnapshot :
    (after.orders ref).commissionSnapshot = (before.orders ref).commissionSnapshot
  repository : after.repository = before.repository
  ledger : after.ledger = before.ledger
  audit : after.audit = before.audit

/-- A raising call has changed nothing. -/
def Atomic (ref : OrderRef) (before : World) (call : ServiceM OrderStateChange) : Prop :=
  ∀ error after, call.run before = .error error after → Untouched ref before after

section Lifecycle

variable (service : OrderService) (tenant : Option TenantContext) (ref : OrderRef)
  (newStatus : OrderStatus) (actor reason : String) (readings : LifecycleReadings) (world : World)

/-- Nothing is changed where nothing was done. -/
theorem untouched_refl : Untouched ref world world := ⟨rfl, rfl, rfl, rfl, rfl, rfl, rfl⟩

private theorem not_untouched_of_moved {after : World} (change : OrderStateChange)
    (moved : after.orders ref = (world.orders ref).moved change) : ¬Untouched ref world after := by
  -- A moved order shows it in its history.
  intro untouched
  have grown := congrArg List.length untouched.history
  rw [moved] at grown
  simp [Order.moved] at grown

/-- The order in the repository's state after its change is the moved one. -/
theorem afterChange_order :
    (service.afterChange ref newStatus actor reason readings world).orders ref =
      (world.orders ref).moved (requested ref newStatus actor reason readings world) :=
  afterMove_order ref newStatus actor reason readings world

/-- A transition is atomic unless it fails after the state machine accepted it. -/
theorem transition_atomic_iff :
    Atomic ref world (service.transition tenant ref newStatus actor reason readings) ↔
      newStatus ∈ validTransitions (world.orders ref).status →
        Allows tenant (world.orders ref).tenantId ∧
        (newStatus = .completed →
          0 ≤ (world.orders ref).totalAmountCents ∧ AcceptedRate (boundRate tenant)) := by
  -- Of the outcomes that raise, only the refusal comes before the order is written.
  unfold Atomic
  have outcome := transition_outcome service tenant ref newStatus actor reason readings world
  generalize (service.transition tenant ref newStatus actor reason readings).run world = result
    at outcome
  cases outcome with
  | refused invalid error =>
    refine iff_of_true ?_ fun valid => absurd valid invalid
    intro raised after same
    cases same
    exact untouched_refl ref world
  | denied valid foreign error =>
    refine iff_of_false ?_ fun condition => foreign (condition valid).1
    intro atomic
    exact not_untouched_of_moved ref world _
      (afterMove_order ref newStatus actor reason readings world) (atomic _ _ rfl)
  | changed valid allowed open_ =>
    refine iff_of_true ?_ fun _ => ⟨allowed, fun completed => absurd completed open_⟩
    intro raised after same
    cases same
  | unsettled valid allowed completed error failed =>
    apply iff_of_false
    · intro atomic
      exact not_untouched_of_moved ref world _
        (service.afterChange_order ref newStatus actor reason readings world) (atomic _ _ rfl)
    · intro condition
      -- Under the condition the calculation would have returned.
      obtain ⟨split, calculated⟩ := (CommissionEngine.calculate_ok_iff service.commissionEngine _
        _).mpr ((condition valid).2 completed)
      rw [failed] at calculated
      cases calculated
  | settled valid allowed completed split calculated entry built =>
    refine iff_of_true ?_ fun _ => ⟨allowed, fun _ => ?_⟩
    · intro raised after same
      cases same
    · exact (CommissionEngine.calculate_ok_iff service.commissionEngine _ _).mp ⟨split, calculated⟩

/-- A cancellation is atomic unless it fails after the state machine accepted it. -/
theorem cancel_atomic_iff :
    Atomic ref world (service.cancel tenant ref actor reason readings) ↔
      .cancelled ∈ validTransitions (world.orders ref).status →
        Allows tenant (world.orders ref).tenantId ∧
        (service.refundsConfigured = true → ∃ refundRef, readings.refund = .ok refundRef) := by
  -- As for a transition, with the refund callback in the place of the settlement.
  unfold Atomic
  have outcome := cancel_outcome service tenant ref actor reason readings world
  generalize (service.cancel tenant ref actor reason readings).run world = result at outcome
  cases outcome with
  | refused invalid error =>
    refine iff_of_true ?_ fun valid => absurd valid invalid
    intro raised after same
    cases same
    exact untouched_refl ref world
  | denied valid foreign error =>
    refine iff_of_false ?_ fun condition => foreign (condition valid).1
    intro atomic
    exact not_untouched_of_moved ref world _
      (afterMove_order ref .cancelled actor reason readings world) (atomic _ _ rfl)
  | unrefunded valid allowed configured error raised =>
    apply iff_of_false
    · intro atomic
      -- The callback is invoked after the change was stored; the order stays moved.
      refine not_untouched_of_moved ref world
        (requested ref .cancelled actor reason readings world) ?_ (atomic _ _ rfl)
      rw [afterRefund, if_pos configured]
      exact service.afterChange_order ref .cancelled actor reason readings world
    · intro condition
      obtain ⟨refundRef, returned⟩ := (condition valid).2 configured
      rw [raised] at returned
      cases returned
  | cancelled valid allowed refundRef refunded =>
    refine iff_of_true ?_ fun _ => ⟨allowed, fun configured => ⟨refundRef, refunded configured⟩⟩
    intro raised after same
    cases same

end Lifecycle

/-- A confirmed order of two thousand cents. -/
def confirmedOrder : Order where
  orderId := "ORD-1"
  status := .confirmed
  totalAmountCents := 2000
  externalId := "ext-1"
  createdAt := "2026-08-12T09:30:00+00:00"

end OrderService

end JolCommerce
