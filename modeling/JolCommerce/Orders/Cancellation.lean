import JolCommerce.Orders.Runs

/-! Which runs refund every cancelled order once and record its cancellation once. -/

namespace JolCommerce

open Python

namespace World

/-- How many `order.cancelled` entries the audit log holds for an order id. -/
def cancelledEntries (world : World) (orderId : String) : Nat :=
  world.audit.entries.countP fun entry =>
    entry.eventType = "order.cancelled" && entry.transactionRef = orderId

/-- One for a cancelled order, zero for any other. -/
def expected (world : World) (ref : OrderRef) : Nat :=
  if (world.orders ref).status = .cancelled then 1 else 0

/-- No other order object carries the id of this one. -/
def SoleId (world : World) (ref : OrderRef) : Prop :=
  ∀ other, (world.orders other).orderId = (world.orders ref).orderId → other = ref

/-- Cancelled orders were refunded once and logged once under their id, other orders never. -/
def CancellationsRecorded (world : World) : Prop :=
  ∀ ref, world.refundCalls.count ref = world.expected ref ∧
    (world.SoleId ref → world.cancelledEntries (world.orders ref).orderId = world.expected ref)

/-- Logging adds to the count exactly when it logs a cancellation of that id. -/
theorem cancelledEntries_logged (world : World) (sha256 : String → String) (stamp : Stamp)
    (call : LogCall JsonObject) (orderId : String) :
    (world.logged sha256 stamp call).cancelledEntries orderId = world.cancelledEntries orderId +
      if call.eventType = "order.cancelled" ∧ call.transactionRef = orderId then 1 else 0 := by
  simp [cancelledEntries, logged, AuditLogger.log, AuditLoggerOf.append, AuditLoggerOf.entryFor,
    List.countP_append, List.countP_cons]

private theorem cancelledEntries_logged_other (world : World) (sha256 : String → String) (stamp : Stamp)
    {call : LogCall JsonObject} (other : call.eventType ≠ "order.cancelled") (orderId : String) :
    (world.logged sha256 stamp call).cancelledEntries orderId = world.cancelledEntries orderId := by
  -- A log record of another kind changes no count.
  simp [cancelledEntries_logged, other]

/-- Both worlds agree on what the property looks at. -/
structure SameCancellations (before after : World) : Prop where
  expected : ∀ ref, after.expected ref = before.expected ref
  orderId : ∀ ref, (after.orders ref).orderId = (before.orders ref).orderId
  refundCalls : after.refundCalls = before.refundCalls
  entries : ∀ orderId, after.cancelledEntries orderId = before.cancelledEntries orderId

/-- The property is carried over to a world that agrees. -/
theorem CancellationsRecorded.carried {before after : World} (recorded : before.CancellationsRecorded)
    (same : SameCancellations before after) : after.CancellationsRecorded := by
  intro ref
  obtain ⟨refunds, entries⟩ := recorded ref
  rw [same.refundCalls, same.expected, same.orderId, same.entries]
  refine ⟨refunds, fun sole => entries fun other equal => sole other ?_⟩
  rw [same.orderId, same.orderId]
  exact equal

/-- A cancelled order that no refund was made for breaks the property. -/
theorem CancellationsRecorded.broken {before after : World} (recorded : before.CancellationsRecorded)
    {ref : OrderRef} (open_ : (before.orders ref).status ≠ .cancelled)
    (cancelled : (after.orders ref).status = .cancelled)
    (unrefunded : after.refundCalls = before.refundCalls) : ¬after.CancellationsRecorded := by
  intro claimed
  have none := (recorded ref).1
  have one := (claimed ref).1
  rw [unrefunded, none] at one
  simp [expected, open_, cancelled] at one

end World

namespace OrderService

/-- What a request may not do for cancellations to be recorded: cancel past the refund workflow. -/
def CancelsProperly (world : World) (request : Request) : Prop :=
  ∀ call actor reason readings, request.operation = .lifecycle call actor reason readings →
    call.target = .cancelled → .cancelled ∈ validTransitions (world.orders request.ref).status →
      call = .cancel ∧ Allows request.tenant (world.orders request.ref).tenantId

/-- The refund callback would return during this request. -/
def RefundReturns (request : Request) : Prop :=
  ∀ call actor reason readings, request.operation = .lifecycle call actor reason readings →
    ∃ refundRef, readings.refund = .ok refundRef

section Steps

variable (service : OrderService) (ref : OrderRef) (newStatus : OrderStatus)
  (actor reason : String) (readings : LifecycleReadings) (world : World)

/-- Moving an order between states that are not cancelled changes nothing the property looks at. -/
theorem afterMove_sameCancellations
    (valid : newStatus ∈ validTransitions (world.orders ref).status)
    (open_ : newStatus ≠ .cancelled) :
    World.SameCancellations world (afterMove ref newStatus actor reason readings world) where
  expected := by
    intro other
    -- Only the moved order has another status, and neither the old nor the new one is cancelled.
    by_cases same : other = ref
    · subst same
      have before := (validTransitions_terminal valid).2
      have after : ((world.orders other).moved
        (requested other newStatus actor reason readings world)).status = newStatus := rfl
      simp [World.expected, afterMove_order, after, before, open_]
    · simp [World.expected, afterMove, World.withOrder_other _ _ same]
  orderId := by
    intro other
    by_cases same : other = ref
    · subst same
      rw [afterMove_order]
      rfl
    · rw [afterMove, World.withOrder_other _ _ same]
  refundCalls := rfl
  entries := fun _ => rfl

/-- Storing and logging the change adds nothing to that. -/
theorem afterChange_sameCancellations
    (valid : newStatus ∈ validTransitions (world.orders ref).status)
    (open_ : newStatus ≠ .cancelled) :
    World.SameCancellations world (service.afterChange ref newStatus actor reason readings world) where
  expected := (afterMove_sameCancellations ref newStatus actor reason readings world valid open_).expected
  orderId := (afterMove_sameCancellations ref newStatus actor reason readings world valid open_).orderId
  refundCalls := rfl
  entries := by
    intro orderId
    rw [afterChange, World.cancelledEntries_logged_other _ _ _ (by simp [statusChangedCall])]
    rfl

/-- A settlement is no cancellation either. -/
theorem afterSettlement_sameCancellations
    (valid : .completed ∈ validTransitions (world.orders ref).status) (split : CommissionSplit)
    (entry : LedgerEntry) :
    World.SameCancellations world
      (service.afterSettlement ref .completed actor reason readings world split entry) := by
  have changed := service.afterChange_sameCancellations ref .completed actor reason readings world
    valid (by decide)
  -- The snapshot is a field that neither status nor id depends on.
  have orders : ∀ other,
      ((service.afterSettlement ref .completed actor reason readings world split entry).orders
        other).status =
        ((service.afterChange ref .completed actor reason readings world).orders other).status ∧
      ((service.afterSettlement ref .completed actor reason readings world split entry).orders
        other).orderId =
        ((service.afterChange ref .completed actor reason readings world).orders other).orderId := by
    intro other
    by_cases same : other = ref
    · subst same
      simp [afterSettlement, World.withOrder]
    · simp [afterSettlement, World.withOrder, same]
  refine ⟨?_, ?_, changed.refundCalls, ?_⟩
  · intro other
    rw [World.expected, (orders other).1]
    exact changed.expected other
  · intro other
    rw [(orders other).2]
    exact changed.orderId other
  · intro orderId
    rw [afterSettlement, World.cancelledEntries_logged_other _ _ _ (by simp [settledCall])]
    exact changed.entries orderId

/-- Binding an order to a tenant changes neither its status nor its id. -/
theorem afterRegister_sameCancellations (tenant : Option TenantContext) (stamp : Stamp) :
    World.SameCancellations world (service.afterRegister tenant ref actor world stamp) := by
  -- Registering binds the tenant of one order and logs its creation, nothing about a
  -- cancellation.
  have orders : ∀ other,
      ((service.afterRegister tenant ref actor world stamp).orders other).status =
        (world.orders other).status ∧
      ((service.afterRegister tenant ref actor world stamp).orders other).orderId =
        (world.orders other).orderId := by
    intro other
    by_cases same : other = ref
    · subst same
      simp [afterRegister]
    · simp [afterRegister, World.withOrder_other _ _ same]
  refine ⟨fun other => ?_, fun other => (orders other).2, rfl, fun orderId => ?_⟩
  · rw [World.expected, (orders other).1]
    rfl
  · rw [afterRegister, World.cancelledEntries_logged_other _ _ _ (by simp [createdCall])]
    rfl

/-- A reversal touches the ledger and the log, no order. -/
theorem afterReversal_sameCancellations (fraction : String) (auditStamp : Stamp)
    (reversal : CommissionSplit) (entry : LedgerEntry) :
    World.SameCancellations world
      (service.afterReversal ref actor reason world fraction auditStamp reversal entry) where
  expected := fun _ => rfl
  orderId := fun _ => rfl
  refundCalls := rfl
  entries := by
    intro orderId
    rw [afterReversal, World.cancelledEntries_logged_other _ _ _ (by simp [reversedCall])]
    rfl

private theorem afterCancel_expected (configured : service.refundsConfigured = true) (refundRef : String)
    (other : OrderRef) :
    (service.afterCancel ref actor reason readings world refundRef).expected other =
      if other = ref then 1 else world.expected other := by
  -- Orders other than the cancelled one are as they were, and it has become cancelled.
  by_cases same : other = ref
  · subst same
    simp [World.expected, afterCancel, afterRefund, configured, afterChange, afterMove, requested,
      Order.change, Order.moved]
  · simp [World.expected, afterCancel, afterRefund, configured, afterChange, afterMove,
      World.withOrder_other _ _ same, same]

private theorem afterCancel_orderId (configured : service.refundsConfigured = true) (refundRef : String)
    (other : OrderRef) :
    ((service.afterCancel ref actor reason readings world refundRef).orders other).orderId =
      (world.orders other).orderId := by
  -- A cancellation through the service changes no order id.
  by_cases same : other = ref
  · subst same
    simp [afterCancel, afterRefund, configured, afterChange, afterMove, Order.moved]
  · simp [afterCancel, afterRefund, configured, afterChange, afterMove,
      World.withOrder_other _ _ same]

private theorem afterCancel_entries (configured : service.refundsConfigured = true) (refundRef : String)
    (orderId : String) :
    (service.afterCancel ref actor reason readings world refundRef).cancelledEntries orderId =
      world.cancelledEntries orderId + if (world.orders ref).orderId = orderId then 1 else 0 := by
  -- A cancellation through the service adds one entry under the order's id.
  have moved : ((world.orders ref).moved
    (requested ref .cancelled actor reason readings world)).orderId = (world.orders ref).orderId := rfl
  have changed : (service.afterChange ref .cancelled actor reason readings world).cancelledEntries
      orderId = world.cancelledEntries orderId := by
    rw [afterChange, World.cancelledEntries_logged_other _ _ _ (by simp [statusChangedCall])]
    rfl
  rw [afterCancel, World.cancelledEntries_logged, ← changed]
  simp [cancelledCall, moved, afterRefund, configured, World.cancelledEntries]

/-- A cancellation through the service is refunded once and logged once. -/
theorem afterCancel_recorded (configured : service.refundsConfigured = true)
    (valid : .cancelled ∈ validTransitions (world.orders ref).status) (refundRef : String)
    (recorded : world.CancellationsRecorded) :
    (service.afterCancel ref actor reason readings world refundRef).CancellationsRecorded := by
  -- The cancelled order gains one refund call and one entry; all other orders keep their counts.
  have calls : (service.afterCancel ref actor reason readings world refundRef).refundCalls =
      world.refundCalls ++ [ref] := by
    simp [afterCancel, afterRefund, configured, afterChange, afterMove]
  -- The order was not cancelled, since that state is terminal.
  have before : world.expected ref = 0 := by
    simp [World.expected, (validTransitions_terminal valid).2]
  intro other
  obtain ⟨refunds, entries⟩ := recorded other
  rw [afterCancel_expected service ref actor reason readings world configured, calls,
    afterCancel_orderId service ref actor reason readings world configured,
    afterCancel_entries service ref actor reason readings world configured]
  constructor
  · rw [List.count_append, refunds, List.count_singleton]
    by_cases same : other = ref
    · simp [same, before]
    · simp [same, Ne.symm same]
  · intro sole
    -- Ids have not changed, so an id that is sole now was sole before.
    have unique : world.SoleId other := by
      intro third equal
      apply sole third
      rw [afterCancel_orderId service ref actor reason readings world configured,
        afterCancel_orderId service ref actor reason readings world configured]
      exact equal
    rw [entries unique]
    by_cases same : other = ref
    · simp [same, before]
    · have different : (world.orders ref).orderId ≠ (world.orders other).orderId := fun equal =>
        same (unique ref equal).symm
      simp [same, different]

end Steps

private theorem cancelsProperly_of_target {world : World} {tenant : Option TenantContext}
    {ref : OrderRef} {call : LifecycleCall} {actor reason : String} {readings : LifecycleReadings}
    (target : call.target ≠ .cancelled) :
    CancelsProperly world ⟨tenant, ref, .lifecycle call actor reason readings⟩ := by
  -- The condition only speaks of calls that move their order to the cancelled state.
  intro other otherActor otherReason otherReadings same otherTarget
  cases same
  exact absurd otherTarget target

/-- One request keeps cancellations recorded exactly when it does not cancel past the workflow. -/
theorem step_recorded_iff {service : OrderService} (configured : service.refundsConfigured = true)
    {world : World} {request : Request} (recorded : world.CancellationsRecorded)
    (returns : RefundReturns request) :
    (service.step world request).CancellationsRecorded ↔ CancelsProperly world request := by
  -- One effect at a time: what does not cancel carries the property over, what cancels without the
  -- workflow breaks it, and the workflow itself restores it.
  have effect := step_effect service world request
  generalize service.step world request = after at effect
  cases effect with
  | none _ idle =>
    apply iff_of_true recorded
    intro call actor reason readings same target valid
    exact absurd (target ▸ valid) (idle call actor reason readings same)
  | registered tenant ref actor stamp allowed =>
    refine iff_of_true (recorded.carried
      (service.afterRegister_sameCancellations ref actor world tenant stamp)) ?_
    intro call actor reason readings same
    cases same
  | denied tenant ref call actor reason readings valid foreign =>
    by_cases target : call.target = .cancelled
    · refine iff_of_false (recorded.broken (validTransitions_terminal valid).2 ?_ rfl) ?_
      · rw [afterMove_order]
        exact target
      · intro proper
        exact foreign (proper call actor reason readings rfl target (target ▸ valid)).2
    · exact iff_of_true (recorded.carried
        (afterMove_sameCancellations ref call.target actor reason readings world valid target))
        (cancelsProperly_of_target target)
  | changed tenant ref call actor reason readings valid allowed noRefund noSettlement =>
    by_cases target : call.target = .cancelled
    · refine iff_of_false (recorded.broken (validTransitions_terminal valid).2 ?_ rfl) ?_
      · rw [afterChange_order]
        exact target
      · intro proper
        exact noRefund (proper call actor reason readings rfl target (target ▸ valid)).1
    · exact iff_of_true (recorded.carried
        (service.afterChange_sameCancellations ref call.target actor reason readings world valid
          target)) (cancelsProperly_of_target target)
  | settled tenant ref call actor reason readings valid allowed completed split calculated entry built =>
    exact iff_of_true (recorded.carried
      (service.afterSettlement_sameCancellations ref actor reason readings world valid split entry))
      (cancelsProperly_of_target (by simp [completed]))
  | unrefunded tenant ref actor reason readings valid allowed _ error raised =>
    -- The callback returns by assumption, so that this outcome does not arise.
    obtain ⟨refundRef, returned⟩ := returns .cancel actor reason readings rfl
    rw [raised] at returned
    cases returned
  | cancelled tenant ref actor reason readings valid allowed refundRef =>
    refine iff_of_true
      (service.afterCancel_recorded ref actor reason readings world configured valid refundRef
        recorded) ?_
    intro call otherActor otherReason otherReadings same _ _
    cases same
    exact ⟨rfl, allowed⟩
  | reversed tenant ref actor fraction reason entryStamp auditStamp snapshot captured rate reversal
      reversed entry built =>
    refine iff_of_true (recorded.carried (service.afterReversal_sameCancellations ref actor reason
      world fraction auditStamp reversal entry)) ?_
    intro call actor reason readings same
    cases same

/-- A registration without a bound tenant. -/
def registration (ref : OrderRef) : Request := ⟨none, ref, .register "clerk" Stamp.sample⟩

/-- A lifecycle call without a bound tenant, the refund callback returning a reference. -/
def lifecycleRequest (ref : OrderRef) (call : LifecycleCall) : Request :=
  ⟨none, ref, .lifecycle call "clerk" "" (sampleReadings (.ok "re_1"))⟩

end OrderService

end JolCommerce
