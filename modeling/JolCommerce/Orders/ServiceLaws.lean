import JolCommerce.Commissions.EngineLaws
import JolCommerce.Orders.Service

/-! What each service operation can do: one outcome for every way it returns or raises. -/

namespace JolCommerce

open Python

namespace World

variable (world : World) (ref other : OrderRef) (order : Order)

@[simp] theorem withOrder_self : (world.withOrder ref order).orders ref = order := by
  simp [withOrder]

theorem withOrder_other {ref other : OrderRef} (different : other ≠ ref) :
    (world.withOrder ref order).orders other = world.orders other := by
  simp [withOrder, different]

@[simp] theorem withOrder_repository : (world.withOrder ref order).repository = world.repository :=
  rfl

@[simp] theorem withOrder_ledger : (world.withOrder ref order).ledger = world.ledger := rfl

@[simp] theorem withOrder_audit : (world.withOrder ref order).audit = world.audit := rfl

@[simp] theorem withOrder_refundCalls :
    (world.withOrder ref order).refundCalls = world.refundCalls := rfl

@[simp] theorem withOrder_nextRef : (world.withOrder ref order).nextRef = world.nextRef := rfl

@[simp] theorem stored_orders : (world.stored ref).orders = world.orders := rfl

@[simp] theorem stored_repository : (world.stored ref).repository =
    world.repository.set (world.orders ref).orderId ref := rfl

@[simp] theorem stored_ledger : (world.stored ref).ledger = world.ledger := rfl

@[simp] theorem stored_audit : (world.stored ref).audit = world.audit := rfl

@[simp] theorem stored_refundCalls : (world.stored ref).refundCalls = world.refundCalls := rfl

@[simp] theorem stored_nextRef : (world.stored ref).nextRef = world.nextRef := rfl

variable (sha256 : String → String) (stamp : Stamp) (call : LogCall JsonObject)

@[simp] theorem logged_orders : (world.logged sha256 stamp call).orders = world.orders := rfl

@[simp] theorem logged_repository :
    (world.logged sha256 stamp call).repository = world.repository := rfl

@[simp] theorem logged_ledger : (world.logged sha256 stamp call).ledger = world.ledger := rfl

@[simp] theorem logged_refundCalls :
    (world.logged sha256 stamp call).refundCalls = world.refundCalls := rfl

@[simp] theorem logged_nextRef : (world.logged sha256 stamp call).nextRef = world.nextRef := rfl

end World

/-- Lifting a value returns it. -/
@[simp] theorem ServiceM.run_lift_ok {α : Type} (value : α) (world : World) :
    (ServiceM.lift (.ok value)).run world = .ok value world := rfl

/-- Lifting an error raises it where it stands. -/
@[simp] theorem ServiceM.run_lift_error {α : Type} (error : PyError) (world : World) :
    (ServiceM.lift (.error error : Except PyError α)).run world = .error error world := rfl

/-- A bound tenant may not touch orders that another tenant owns. -/
def Allows (tenant : Option TenantContext) (tenantId : String) : Prop :=
  ∀ context, tenant = some context → tenantId = "" ∨ tenantId = context.tenantId

/-- The repository's check passes exactly for the allowed orders. -/
theorem checkTenant_ok_iff (tenant : Option TenantContext) (tenantId : String) :
    OrderRepository.checkTenant tenant tenantId = .ok () ↔ Allows tenant tenantId := by
  -- Without a bound tenant both sides hold; with one they are the same two comparisons.
  unfold OrderRepository.checkTenant Allows
  cases tenant with
  | none => simp
  | some context =>
    by_cases foreign : tenantId ≠ "" ∧ tenantId ≠ context.tenantId
    · simp [foreign]
    · simp only [foreign, if_false, Option.some.injEq, forall_eq', true_iff]
      by_cases unowned : tenantId = ""
      · exact Or.inl unowned
      · exact Or.inr (by_contra fun different => foreign ⟨unowned, different⟩)

namespace OrderRepository

/-- Saving an allowed order stores the reference under the order's id. -/
theorem save_allowed {tenant : Option TenantContext} {ref : OrderRef} {world : World}
    (allowed : Allows tenant (world.orders ref).tenantId) :
    (save tenant ref).run world = .ok () (world.stored ref) := by
  simp [save, (checkTenant_ok_iff _ _).mpr allowed]

/-- Saving another tenant's order raises and stores nothing. -/
theorem save_denied {tenant : Option TenantContext} {ref : OrderRef} {world : World}
    (foreign : ¬Allows tenant (world.orders ref).tenantId) :
    ∃ error, (save tenant ref).run world = .error error world := by
  -- The check fails for some error, and saving passes that error on.
  cases check : checkTenant tenant (world.orders ref).tenantId with
  | ok _ => exact absurd ((checkTenant_ok_iff _ _).mp check) foreign
  | error error => exact ⟨error, by simp [save, check]⟩

/-- A lookup changes nothing: it finds no order, an allowed one, or raises for a foreign one. -/
theorem findById_cases (tenant : Option TenantContext) (orderId : String) (world : World) :
    (world.repository.get? orderId = none ∧
      (findById tenant orderId).run world = .ok none world) ∨
    ∃ ref, world.repository.get? orderId = some ref ∧
      ((Allows tenant (world.orders ref).tenantId ∧
          (findById tenant orderId).run world = .ok (some ref) world) ∨
        (¬Allows tenant (world.orders ref).tenantId ∧
          ∃ error, (findById tenant orderId).run world = .error error world)) := by
  cases place : world.repository.get? orderId with
  | none => exact Or.inl ⟨rfl, by simp [findById, place]⟩
  | some ref =>
    refine Or.inr ⟨ref, rfl, ?_⟩
    -- The tenant is checked on the order that was found, after the dictionary lookup.
    cases check : checkTenant tenant (world.orders ref).tenantId with
    | ok _ =>
      refine Or.inl ⟨(checkTenant_ok_iff _ _).mp check, ?_⟩
      simp only [findById, EStateM.run_bind, EStateM.run_get, place, check]
      rfl
    | error error =>
      -- An order the check refuses cannot be an allowed one.
      refine Or.inr ⟨fun allowed => ?_, error, ?_⟩
      · rw [(checkTenant_ok_iff _ _).mpr allowed] at check
        cases check
      · simp only [findById, EStateM.run_bind, EStateM.run_get, place, check]
        rfl

end OrderRepository

namespace OrderService

variable (service : OrderService) (tenant : Option TenantContext) (ref : OrderRef)
  (newStatus : OrderStatus) (actor reason : String) (readings : LifecycleReadings) (world : World)

/-- The contract rate of the bound tenant. -/
def boundRate : Option String := tenant.map fun context => context.tenant.commissionRate

/-- The record of the transition a call asks for. -/
def requested : OrderStateChange :=
  (world.orders ref).change newStatus actor reason readings.changedAt

/-- The order object changed, nothing else. -/
def afterMove : World :=
  -- `transition_to` writes the object that the caller and the repository share.
  world.withOrder ref ((world.orders ref).moved (requested ref newStatus actor reason readings world))

/-- The changed order stored and its change logged. -/
def afterChange : World :=
  -- The save comes after the move and before the log entry.
  ((afterMove ref newStatus actor reason readings world).stored ref).logged service.sha256
    readings.changedStamp (statusChangedCall
      ((world.orders ref).moved (requested ref newStatus actor reason readings world))
      (requested ref newStatus actor reason readings world) actor)

/-- The snapshot captured, the ledger entry appended and the settlement logged. -/
def afterSettlement (split : CommissionSplit) (entry : LedgerEntry) : World :=
  let changed := service.afterChange ref newStatus actor reason readings world
  -- The object has been moved already; the snapshot is written into it as it is then.
  let order := { changed.orders ref with commissionSnapshot := some (snapshotOf split) }
  ({ changed.withOrder ref order with ledger := changed.ledger.append entry }).logged service.sha256
    readings.settledStamp (settledCall order split actor)

/-- Every way a transition returns or raises, with what it leaves behind. -/
inductive TransitionOutcome : EStateM.Result PyError World OrderStateChange → Prop where
  /-- The state machine refuses the target. -/
  | refused (invalid : newStatus ∉ validTransitions (world.orders ref).status) (error : PyError) :
    TransitionOutcome (.error error world)
  /-- The order belongs to another tenant, which is noticed after it was changed. -/
  | denied (valid : newStatus ∈ validTransitions (world.orders ref).status)
    (foreign : ¬Allows tenant (world.orders ref).tenantId) (error : PyError) :
    TransitionOutcome (.error error (afterMove ref newStatus actor reason readings world))
  | changed (valid : newStatus ∈ validTransitions (world.orders ref).status)
    (allowed : Allows tenant (world.orders ref).tenantId) (open_ : newStatus ≠ .completed) :
    TransitionOutcome (.ok (requested ref newStatus actor reason readings world)
      (service.afterChange ref newStatus actor reason readings world))
  /-- The commission cannot be calculated, which is noticed after the change was stored. -/
  | unsettled (valid : newStatus ∈ validTransitions (world.orders ref).status)
    (allowed : Allows tenant (world.orders ref).tenantId) (completed : newStatus = .completed)
    (error : PyError)
    (failed : service.commissionEngine.calculate (world.orders ref).totalAmountCents
      (boundRate tenant) = .error error) :
    TransitionOutcome (.error error (service.afterChange ref newStatus actor reason readings world))
  | settled (valid : newStatus ∈ validTransitions (world.orders ref).status)
    (allowed : Allows tenant (world.orders ref).tenantId) (completed : newStatus = .completed)
    (split : CommissionSplit)
    (calculated : service.commissionEngine.calculate (world.orders ref).totalAmountCents
      (boundRate tenant) = .ok split)
    (entry : LedgerEntry)
    (built : LedgerEntry.new (settlementFields (world.orders ref) split) readings.entryStamp =
      .ok entry) :
    TransitionOutcome (.ok (requested ref newStatus actor reason readings world)
      (service.afterSettlement ref newStatus actor reason readings world split entry))

private theorem settlement_entry {engine : CommissionEngine} {order : Order} {tenantRate : Option String}
    {split : CommissionSplit}
    (calculated : engine.calculate order.totalAmountCents tenantRate = .ok split) (stamp : Stamp) :
    ∃ entry, LedgerEntry.new (settlementFields order split) stamp = .ok entry := by
  -- A split that was calculated gives a balanced ledger entry.
  have spec := CommissionEngine.calculate_spec calculated
  have balanced : (settlementFields order split).platformFeeCents +
      (settlementFields order split).tenantSettlementCents =
      (settlementFields order split).grossAmountCents := by
    simpa [settlementFields, spec.gross_eq] using spec.balanced
  exact ⟨_, dif_pos balanced⟩

/-- Moving an order changes its status, its time of change and its history only. -/
theorem afterMove_order : (afterMove ref newStatus actor reason readings world).orders ref =
    (world.orders ref).moved (requested ref newStatus actor reason readings world) :=
  World.withOrder_self _ _ _

/-- A valid transition of an allowed order is stored and logged before any settlement. -/
theorem transition_allowed (valid : newStatus ∈ validTransitions (world.orders ref).status)
    (allowed : Allows tenant (world.orders ref).tenantId) :
    (service.transition tenant ref newStatus actor reason readings).run world =
      (do
        if newStatus = .completed then service.settleCommission tenant ref actor readings
        return requested ref newStatus actor reason readings world : ServiceM _).run
        (service.afterChange ref newStatus actor reason readings world) := by
  -- Run the body up to the settlement: the move, the save and the log entry all succeed.
  have moves : (world.orders ref).transitionTo newStatus actor reason readings.changedAt =
      .ok (requested ref newStatus actor reason readings world,
        (world.orders ref).moved (requested ref newStatus actor reason readings world)) :=
    if_pos valid
  -- The owner is checked on the moved object, whose owner is the old one.
  have own : Allows tenant ((afterMove ref newStatus actor reason readings world).orders ref).tenantId := by
    rw [afterMove_order]
    exact allowed
  have saves := OrderRepository.save_allowed own
  unfold afterMove at saves
  simp [transition, moves, saves, afterChange, afterMove]

private theorem settleCommission_error {error : PyError}
    (failed : service.commissionEngine.calculate (world.orders ref).totalAmountCents
      (boundRate tenant) = .error error) :
    (service.settleCommission tenant ref actor readings).run world = .error error world := by
  -- Settling either raises before it changes anything, or captures, records and logs the split.
  unfold boundRate at failed
  simp [settleCommission, failed]

private theorem settleCommission_ok {split : CommissionSplit} {entry : LedgerEntry}
    (calculated : service.commissionEngine.calculate (world.orders ref).totalAmountCents
      (boundRate tenant) = .ok split)
    (built : LedgerEntry.new (settlementFields (world.orders ref) split) readings.entryStamp =
      .ok entry) :
    (service.settleCommission tenant ref actor readings).run world = .ok ()
      (({ world.withOrder ref { world.orders ref with commissionSnapshot := some (snapshotOf split) } with
        ledger := world.ledger.append entry }).logged service.sha256 readings.settledStamp
        (settledCall { world.orders ref with commissionSnapshot := some (snapshotOf split) } split
          actor)) := by
  -- A settlement that can be calculated is recorded.
  have fields : settlementFields
      { world.orders ref with commissionSnapshot := some (snapshotOf split) } split =
      settlementFields (world.orders ref) split := rfl
  unfold boundRate at calculated
  simp [settleCommission, calculated, fields, built, World.logged]

/-- A completion of an allowed order settles, or fails to. -/
theorem complete_outcome (valid : .completed ∈ validTransitions (world.orders ref).status)
    (allowed : Allows tenant (world.orders ref).tenantId) :
    TransitionOutcome service tenant ref .completed actor reason readings world
      ((service.transition tenant ref .completed actor reason readings).run world) := by
  rw [transition_allowed service tenant ref .completed actor reason readings world valid allowed]
  -- The amount and the names are those of the order before it was moved.
  have order : (service.afterChange ref .completed actor reason readings world).orders ref =
    (world.orders ref).moved (requested ref .completed actor reason readings world) :=
    afterMove_order ref .completed actor reason readings world
  -- Only the calculation can fail from here on, and it does so before the snapshot is written.
  cases calculated : service.commissionEngine.calculate (world.orders ref).totalAmountCents
    (boundRate tenant) with
  | error error =>
    have raised := settleCommission_error service tenant ref actor readings
      (service.afterChange ref .completed actor reason readings world)
      (by rw [order]; exact calculated)
    simp only [if_true, EStateM.run_bind, raised]
    exact .unsettled valid allowed rfl error calculated
  | ok split =>
    obtain ⟨entry, built⟩ := settlement_entry calculated readings.entryStamp
    have recorded := settleCommission_ok service tenant ref actor readings
      (service.afterChange ref .completed actor reason readings world)
      (by rw [order]; exact calculated) (by rw [order]; exact built)
    simp only [if_true, EStateM.run_bind, recorded]
    exact .settled valid allowed rfl split calculated entry built

/-- A transition of another tenant's order has changed the order when it raises. -/
theorem transition_denied (valid : newStatus ∈ validTransitions (world.orders ref).status)
    (foreign : ¬Allows tenant (world.orders ref).tenantId) :
    ∃ error, (service.transition tenant ref newStatus actor reason readings).run world =
      .error error (afterMove ref newStatus actor reason readings world) := by
  -- The state machine accepts, the object is written, and only then does the save refuse.
  have moves : (world.orders ref).transitionTo newStatus actor reason readings.changedAt =
      .ok (requested ref newStatus actor reason readings world,
        (world.orders ref).moved (requested ref newStatus actor reason readings world)) :=
    if_pos valid
  have other : ¬Allows tenant
      ((afterMove ref newStatus actor reason readings world).orders ref).tenantId := by
    rw [afterMove_order]
    exact foreign
  obtain ⟨error, denied⟩ := OrderRepository.save_denied other
  unfold afterMove at denied
  exact ⟨error, by simp [transition, moves, denied, afterMove]⟩

/-- A transition has exactly these outcomes. -/
theorem transition_outcome :
    TransitionOutcome service tenant ref newStatus actor reason readings world
      ((service.transition tenant ref newStatus actor reason readings).run world) := by
  -- In the order of the body: the state machine, the repository, the target of the transition.
  by_cases valid : newStatus ∈ validTransitions (world.orders ref).status
  · by_cases allowed : Allows tenant (world.orders ref).tenantId
    · by_cases completed : newStatus = .completed
      · subst completed
        exact complete_outcome service tenant ref actor reason readings world valid allowed
      · rw [transition_allowed service tenant ref newStatus actor reason readings world valid
          allowed]
        simp only [completed, if_false]
        exact .changed valid allowed completed
    · obtain ⟨error, denied⟩ :=
        transition_denied service tenant ref newStatus actor reason readings world valid allowed
      rw [denied]
      exact .denied valid allowed error
  -- A refused target raises on the first line, so nothing was written.
  · have refuses : (world.orders ref).transitionTo newStatus actor reason readings.changedAt =
        .error (.valueError ((world.orders ref).invalidTransition newStatus)) := if_neg valid
    have refused : (service.transition tenant ref newStatus actor reason readings).run world =
        .error (.valueError ((world.orders ref).invalidTransition newStatus)) world := by
      simp [transition, refuses]
    rw [refused]
    exact .refused valid _

/-- The bound order stored and its registration logged. -/
def afterRegister (stamp : Stamp) : World :=
  ((world.withOrder ref (bindTenant tenant (world.orders ref))).stored ref).logged service.sha256
    stamp (createdCall (bindTenant tenant (world.orders ref)) actor)

/-- Binding changes nothing but the owner and the branch of an unowned order. -/
theorem bindTenant_owned {order : Order} (owned : order.tenantId ≠ "") :
    bindTenant tenant order = order := by
  simp [bindTenant, owned]

/-- Binding never renames an order. -/
@[simp] theorem bindTenant_orderId (order : Order) :
    (bindTenant tenant order).orderId = order.orderId := by
  unfold bindTenant
  split
  · rfl
  · cases tenant <;> rfl

/-- Binding never moves an order. -/
@[simp] theorem bindTenant_status (order : Order) :
    (bindTenant tenant order).status = order.status := by
  unfold bindTenant
  split
  · rfl
  · cases tenant <;> rfl

/-- A bound order is allowed exactly when it was before: an unowned one becomes an own one. -/
theorem allows_bindTenant (order : Order) :
    Allows tenant (bindTenant tenant order).tenantId ↔ Allows tenant order.tenantId := by
  -- Only an unowned order is bound, and it is allowed before and after.
  by_cases owned : order.tenantId = ""
  · cases tenant with
    | none => simp [Allows]
    | some context => simp [Allows, bindTenant, owned]
  · rw [bindTenant_owned tenant owned]

/-- Every way a registration returns or raises. -/
inductive RegisterOutcome (stamp : Stamp) : EStateM.Result PyError World Unit → Prop where
  | denied (foreign : ¬Allows tenant (world.orders ref).tenantId) (error : PyError) :
    RegisterOutcome stamp (.error error world)
  | registered (allowed : Allows tenant (world.orders ref).tenantId) :
    RegisterOutcome stamp (.ok () (service.afterRegister tenant ref actor world stamp))

/-- A registration has exactly these outcomes. -/
theorem register_outcome (stamp : Stamp) :
    RegisterOutcome service tenant ref actor world stamp
      ((service.register tenant ref actor stamp).run world) := by
  -- The order is bound before it is saved.
  have bound : (world.withOrder ref (bindTenant tenant (world.orders ref))).orders ref =
    bindTenant tenant (world.orders ref) := World.withOrder_self _ _ _
  by_cases allowed : Allows tenant (world.orders ref).tenantId
  · have own : Allows tenant ((world.withOrder ref (bindTenant tenant (world.orders ref))).orders
        ref).tenantId := by
      rw [bound]
      exact (allows_bindTenant tenant _).mpr allowed
    have saves := OrderRepository.save_allowed own
    have registers : (service.register tenant ref actor stamp).run world =
        .ok () (service.afterRegister tenant ref actor world stamp) := by
      simp [register, saves, afterRegister]
    rw [registers]
    exact .registered allowed
  · -- An order that is refused has an owner, so nothing was bound either.
    have owned : (world.orders ref).tenantId ≠ "" := fun unowned =>
      allowed fun _ _ => Or.inl unowned
    have same : world.withOrder ref (bindTenant tenant (world.orders ref)) = world := by
      rw [bindTenant_owned tenant owned, World.withOrder, Function.update_eq_self]
    obtain ⟨error, denied⟩ := OrderRepository.save_denied allowed
    have refused : (service.register tenant ref actor stamp).run world = .error error world := by
      simp [register, same, denied]
    rw [refused]
    exact .denied allowed error

/-- The refund callback invoked, where there is one. -/
def afterRefund : World :=
  let changed := service.afterChange ref .cancelled actor reason readings world
  if service.refundsConfigured then { changed with refundCalls := changed.refundCalls ++ [ref] }
  else changed

/-- The cancellation logged with the reference of its refund. -/
def afterCancel (refundRef : String) : World :=
  (service.afterRefund ref actor reason readings world).logged service.sha256
    readings.cancelledStamp (cancelledCall
      ((world.orders ref).moved (requested ref .cancelled actor reason readings world)) refundRef
      actor reason)

/-- Every way a cancellation returns or raises. -/
inductive CancelOutcome : EStateM.Result PyError World OrderStateChange → Prop where
  | refused (invalid : .cancelled ∉ validTransitions (world.orders ref).status) (error : PyError) :
    CancelOutcome (.error error world)
  | denied (valid : .cancelled ∈ validTransitions (world.orders ref).status)
    (foreign : ¬Allows tenant (world.orders ref).tenantId) (error : PyError) :
    CancelOutcome (.error error (afterMove ref .cancelled actor reason readings world))
  /-- The callback raises, which is noticed after the change was stored and logged. -/
  | unrefunded (valid : .cancelled ∈ validTransitions (world.orders ref).status)
    (allowed : Allows tenant (world.orders ref).tenantId)
    (configured : service.refundsConfigured = true) (error : PyError)
    (raised : readings.refund = .error error) :
    CancelOutcome (.error error (service.afterRefund ref actor reason readings world))
  | cancelled (valid : .cancelled ∈ validTransitions (world.orders ref).status)
    (allowed : Allows tenant (world.orders ref).tenantId) (refundRef : String)
    (refunded : service.refundsConfigured = true → readings.refund = .ok refundRef) :
    CancelOutcome (.ok (requested ref .cancelled actor reason readings world)
      (service.afterCancel ref actor reason readings world refundRef))

/-- A cancellation has exactly these outcomes. -/
theorem cancel_outcome :
    CancelOutcome service tenant ref actor reason readings world
      ((service.cancel tenant ref actor reason readings).run world) := by
  have transition := transition_outcome service tenant ref .cancelled actor reason readings world
  unfold cancel
  rw [EStateM.run_bind]
  generalize (service.transition tenant ref .cancelled actor reason readings).run world = result
    at transition
  -- A cancellation that passes the transition is never a completion.
  cases transition with
  | refused invalid error => exact .refused invalid error
  | denied valid foreign error => exact .denied valid foreign error
  | unsettled valid allowed completed error failed => cases completed
  | settled valid allowed completed split calculated entry built => cases completed
  | changed valid allowed open_ =>
    have order : (service.afterChange ref .cancelled actor reason readings world).orders ref =
      (world.orders ref).moved (requested ref .cancelled actor reason readings world) :=
      afterMove_order ref .cancelled actor reason readings world
    -- Without a callback the reference is empty and nothing can raise any more.
    by_cases configured : service.refundsConfigured = true
    · cases outcome : readings.refund with
      | error error =>
        have raised := @CancelOutcome.unrefunded service tenant ref actor reason readings world
          valid allowed configured error outcome
        simpa [refund, configured, outcome, afterRefund] using raised
      | ok refundRef =>
        have done := @CancelOutcome.cancelled service tenant ref actor reason readings world valid
          allowed refundRef fun _ => outcome
        simpa [refund, configured, outcome, afterCancel, afterRefund, order] using done
    · have done := @CancelOutcome.cancelled service tenant ref actor reason readings world valid
        allowed "" fun contradiction => absurd contradiction configured
      simpa [refund, configured, afterCancel, afterRefund, order] using done

section Reversal

variable (fraction : String) (entryStamp auditStamp : Stamp)

/-- The reversal entry appended and logged. -/
def afterReversal (reversal : CommissionSplit) (entry : LedgerEntry) : World :=
  ({ world with ledger := world.ledger.append entry }).logged service.sha256 auditStamp
    (reversedCall (world.orders ref) reversal fraction actor reason)

/-- Every way a reversal returns or raises. -/
inductive ReversalOutcome : EStateM.Result PyError World LedgerEntry → Prop where
  | refused (error : PyError) : ReversalOutcome (.error error world)
  | recorded (snapshot : CommissionSnapshot)
    (captured : (world.orders ref).commissionSnapshot = some snapshot) (rate : Decimal)
    (reversal : CommissionSplit)
    (reversed : CommissionEngine.reverse (settledSplit rate snapshot) fraction = .ok reversal)
    (entry : LedgerEntry)
    (built : LedgerEntry.new (reversalFields (world.orders ref) snapshot reversal) entryStamp =
      .ok entry) :
    ReversalOutcome (.ok entry
      (service.afterReversal ref actor reason world fraction auditStamp reversal entry))

/-- A reversed split gives a balanced ledger entry. -/
theorem reversal_entry {split reversal : CommissionSplit} {fraction : String}
    (reversed : CommissionEngine.reverse split fraction = .ok reversal) (order : Order)
    (snapshot : CommissionSnapshot) (stamp : Stamp) :
    ∃ entry, LedgerEntry.new (reversalFields order snapshot reversal) stamp = .ok entry := by
  -- Both reversed amounts change sign, so that they still add up.
  have sums := CommissionEngine.reverse_balanced reversed
  have balanced : (reversalFields order snapshot reversal).platformFeeCents +
      (reversalFields order snapshot reversal).tenantSettlementCents =
      (reversalFields order snapshot reversal).grossAmountCents := by
    simp only [reversalFields]
    omega
  exact ⟨_, dif_pos balanced⟩

/-- A reversal whose fraction is accepted is recorded. -/
theorem recordCommissionReversal_ok {snapshot : CommissionSnapshot} {rate : Decimal}
    {reversal : CommissionSplit} {entry : LedgerEntry}
    (captured : (world.orders ref).commissionSnapshot = some snapshot)
    (read : readDecimal snapshot.rate = .ok rate)
    (reversed : CommissionEngine.reverse (settledSplit rate snapshot) fraction = .ok reversal)
    (built : LedgerEntry.new (reversalFields (world.orders ref) snapshot reversal) entryStamp =
      .ok entry) :
    (service.recordCommissionReversal ref actor fraction reason entryStamp auditStamp).run world =
      .ok entry (service.afterReversal ref actor reason world fraction auditStamp reversal entry) := by
  simp [recordCommissionReversal, captured, read, reversed, built, afterReversal]

/-- A reversal has exactly these outcomes. -/
theorem reversal_outcome :
    ReversalOutcome service ref actor reason world fraction entryStamp auditStamp
      ((service.recordCommissionReversal ref actor fraction reason entryStamp auditStamp).run
        world) := by
  -- Each line of the body either raises with the world as it was, or hands a value on.
  cases captured : (world.orders ref).commissionSnapshot with
  | none =>
    have raised : (service.recordCommissionReversal ref actor fraction reason entryStamp
        auditStamp).run world = .error (.valueError ("Order " ++ (world.orders ref).orderId ++
          " has no settled commission to reverse")) world := by
      simp [recordCommissionReversal, captured]
    rw [raised]
    exact .refused _
  | some snapshot =>
    cases read : readDecimal snapshot.rate with
    | error error =>
      have raised : (service.recordCommissionReversal ref actor fraction reason entryStamp
          auditStamp).run world = .error error world := by
        simp [recordCommissionReversal, captured, read]
      rw [raised]
      exact .refused _
    | ok rate =>
      cases reversed : CommissionEngine.reverse (settledSplit rate snapshot) fraction with
      | error error =>
        have raised : (service.recordCommissionReversal ref actor fraction reason entryStamp
            auditStamp).run world = .error error world := by
          simp [recordCommissionReversal, captured, read, reversed]
        rw [raised]
        exact .refused _
      | ok reversal =>
        obtain ⟨entry, built⟩ := reversal_entry reversed (world.orders ref) snapshot entryStamp
        rw [recordCommissionReversal_ok service ref actor reason world fraction entryStamp auditStamp
          captured read reversed built]
        exact .recorded snapshot captured rate reversal reversed entry built

end Reversal

/-- Fixed readings of a lifecycle call, with what the refund callback does. -/
def sampleReadings (refund : Except PyError String) : LifecycleReadings where
  changedAt := Stamp.sample.moment
  changedStamp := Stamp.sample
  entryStamp := Stamp.sample
  settledStamp := Stamp.sample
  cancelledStamp := Stamp.sample
  refund := refund

/-- A service with the default commission engine and a refund callback. -/
def sampleService : OrderService := ⟨id, CommissionEngine.standard, true⟩

/-- Draft orders with pairwise different ids. -/
def draftOrders (ref : OrderRef) : Order where
  orderId := String.ofList (natText ref)
  externalId := "ext"
  createdAt := "2026-08-12T09:30:00+00:00"

/-- The context of a tenant with the given id and contract rate. -/
def sampleContext (tenantId commissionRate : String) : TenantContext where
  tenant := ⟨tenantId, tenantId, "Parish", .faithCommunity, commissionRate, "", true⟩
  resolvedFrom := "subdomain"

end OrderService

end JolCommerce
