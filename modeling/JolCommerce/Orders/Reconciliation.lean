import JolCommerce.Audit.Export
import JolCommerce.Orders.History

/-! The commission ledger can be rebuilt from the audit trail, and from its export. -/

namespace JolCommerce

open Python

/-- A change of the fee that the platform is owed, by tenant and order. -/
structure Movement where
  tenantId : String
  orderId : String
  platformFeeCents : Int

/-- The movement that a ledger entry books. -/
def LedgerEntry.movement (entry : LedgerEntry) : Movement :=
  ⟨entry.tenantId, entry.orderId, entry.platformFeeCents⟩

namespace Movement

/-- The movement that a record tells of, by its kind, its reference and its details. -/
def told? (eventType transactionRef : String) (details : JsonObject) : Option Movement := do
  if eventType = "commission.settled" then
    let tenantId ← detailText? details "tenant_id"
    let fee ← detailInt? details "platform_fee_cents"
    return ⟨tenantId, transactionRef, fee⟩
  else if eventType = "commission.reversed" then
    let tenantId ← detailText? details "tenant_id"
    let fee ← detailInt? details "reversed_fee_cents"
    -- A reversal is recorded with what is given back.
    return ⟨tenantId, transactionRef, -fee⟩
  else none

/-- The sum of the fees, of one tenant where one is named. -/
def feeTotal (tenantId : Option String) (movements : List Movement) : Int :=
  let counted := match tenantId with
    | none => movements
    | some tenantId =>
      if tenantId = "" then movements else movements.filter fun movement => movement.tenantId = tenantId
  (counted.map platformFeeCents).sum

/-- The ledger's own total is that of the movements it books. -/
theorem platformFeeTotal_eq (ledger : CommissionLedger) (tenantId : Option String) :
    ledger.platformFeeTotal tenantId = feeTotal tenantId (ledger.entries.map LedgerEntry.movement) := by
  have all : (ledger.entries.map LedgerEntry.movement).map platformFeeCents =
      ledger.entries.map LedgerEntry.platformFeeCents := by
    rw [List.map_map]
    rfl
  cases tenantId with
  | none => rw [feeTotal, CommissionLedger.platformFeeTotal, all, CommissionLedger.entriesInScope]
  | some tenantId =>
    rw [CommissionLedger.platformFeeTotal, CommissionLedger.entriesInScope, feeTotal]
    split
    · rw [all]
    · rw [CommissionLedger.entriesForTenant, List.filter_map, List.map_map]
      rfl

end Movement

/-- The movement an audit entry tells of. -/
def AuditEntry.movement? (entry : AuditEntry) : Option Movement :=
  Movement.told? entry.eventType entry.transactionRef entry.details

/-- The movements that an audit log tells of, oldest first. -/
def AuditLogger.movements (audit : AuditLogger) : List Movement :=
  audit.entries.filterMap AuditEntry.movement?

namespace World

/-- The books and the audit log tell of the same movements, in one order. -/
def Reconciled (world : World) : Prop :=
  world.audit.movements = world.ledger.entries.map LedgerEntry.movement

/-- A later world whose books and log tell of the same further movements. -/
def Records (before after : World) (movements : List Movement) : Prop :=
  after.audit.movements = before.audit.movements ++ movements ∧
    after.ledger.entries.map LedgerEntry.movement =
      before.ledger.entries.map LedgerEntry.movement ++ movements

/-- Worlds that go on telling of the same movements stay reconciled. -/
theorem Reconciled.records {before after : World} {movements : List Movement}
    (reconciled : before.Reconciled) (records : before.Records after movements) :
    after.Reconciled := by
  obtain ⟨told, booked⟩ := records
  have same : before.audit.movements = before.ledger.entries.map LedgerEntry.movement := reconciled
  show after.audit.movements = after.ledger.entries.map LedgerEntry.movement
  rw [told, booked, same]

/-- A record adds the movement it tells of. -/
theorem movements_logged (world : World) (sha256 : String → String) (stamp : Stamp)
    (call : LogCall JsonObject) :
    (world.logged sha256 stamp call).audit.movements = world.audit.movements ++
      (Movement.told? call.eventType call.transactionRef
        (call.details.getD SortedMap.empty)).toList := by
  exact world.audit.filterMap_log AuditEntry.movement? sha256 stamp call

end World

namespace OrderService

/-- A record of another kind tells of no movement. -/
theorem told_other {eventType transactionRef : String} {details : JsonObject}
    (unsettled : eventType ≠ "commission.settled") (unreversed : eventType ≠ "commission.reversed") :
    Movement.told? eventType transactionRef details = none := by
  rw [Movement.told?, if_neg unsettled, if_neg unreversed]

/-- The record of a settlement tells of what its ledger entry books. -/
theorem told_settled (order : Order) (split : CommissionSplit) (actor : String) :
    Movement.told? (settledCall order split actor).eventType
      (settledCall order split actor).transactionRef
      ((settledCall order split actor).details.getD SortedMap.empty) =
        some ⟨order.tenantId, order.orderId, split.platformFeeCents⟩ := by
  simp [settledCall, Movement.told?, detailText?, detailInt?, SortedMap.ofList,
    SortedMap.get?_set_of_ne, JsonValue.str, JsonValue.int]

/-- So does the record of a reversal. -/
theorem told_reversed (order : Order) (reversal : CommissionSplit)
    (fraction actor reason : String) :
    Movement.told? (reversedCall order reversal fraction actor reason).eventType
      (reversedCall order reversal fraction actor reason).transactionRef
      ((reversedCall order reversal fraction actor reason).details.getD SortedMap.empty) =
        some ⟨order.tenantId, order.orderId, -reversal.platformFeeCents⟩ := by
  simp [reversedCall, Movement.told?, detailText?, detailInt?, SortedMap.ofList,
    SortedMap.get?_set_of_ne, JsonValue.str, JsonValue.int]

section Effects

variable (service : OrderService) (ref : OrderRef) (newStatus : OrderStatus)
  (actor reason : String) (readings : LifecycleReadings) (world : World)

/-- A status change moves no money. -/
theorem afterChange_records :
    world.Records (service.afterChange ref newStatus actor reason readings world) [] := by
  refine ⟨?_, (List.append_nil _).symm⟩
  rw [afterChange, World.movements_logged,
    told_other (by simp [statusChangedCall]) (by simp [statusChangedCall])]
  rfl

/-- A settlement books the fee of its split and tells of it. -/
theorem afterSettlement_records (split : CommissionSplit) {entry : LedgerEntry}
    (built : LedgerEntry.new (settlementFields (world.orders ref) split) readings.entryStamp =
      .ok entry) :
    world.Records (service.afterSettlement ref newStatus actor reason readings world split entry)
      [⟨(world.orders ref).tenantId, (world.orders ref).orderId, split.platformFeeCents⟩] := by
  obtain ⟨told, booked⟩ := service.afterChange_records ref newStatus actor reason readings world
  have moved := service.afterChange_order ref newStatus actor reason readings world
  have fields := LedgerEntry.new_fields built
  constructor
  · rw [afterSettlement, World.movements_logged, told_settled, moved]
    show (service.afterChange ref newStatus actor reason readings world).audit.movements ++ _ = _
    rw [told, List.append_nil]
    rfl
  · show ((service.afterChange ref newStatus actor reason readings world).ledger.entries ++
      [entry]).map LedgerEntry.movement = _
    have movement : entry.movement =
        ⟨(world.orders ref).tenantId, (world.orders ref).orderId, split.platformFeeCents⟩ :=
      congrArg (fun fields : LedgerArguments =>
        Movement.mk fields.tenantId fields.orderId fields.platformFeeCents) fields
    rw [List.map_append, booked, List.append_nil, List.map_singleton, movement]

/-- The refund workflow moves no commission. -/
theorem afterRefund_records :
    world.Records (service.afterRefund ref actor reason readings world) [] := by
  have changed := service.afterChange_records ref .cancelled actor reason readings world
  unfold afterRefund
  split
  · exact changed
  · exact changed

/-- A reversal books what is given back and tells of it. -/
theorem afterReversal_records {fraction : String} {entryStamp auditStamp : Stamp}
    {snapshot : CommissionSnapshot} {reversal : CommissionSplit} {entry : LedgerEntry}
    (built : LedgerEntry.new (reversalFields (world.orders ref) snapshot reversal) entryStamp =
      .ok entry) :
    world.Records
      (service.afterReversal ref actor reason world fraction auditStamp reversal entry)
      [⟨(world.orders ref).tenantId, (world.orders ref).orderId, -reversal.platformFeeCents⟩] := by
  have fields := LedgerEntry.new_fields built
  constructor
  · rw [afterReversal, World.movements_logged, told_reversed]
    rfl
  · show (world.ledger.entries ++ [entry]).map LedgerEntry.movement = _
    have movement : entry.movement =
        ⟨(world.orders ref).tenantId, (world.orders ref).orderId, -reversal.platformFeeCents⟩ :=
      congrArg (fun fields : LedgerArguments =>
        Movement.mk fields.tenantId fields.orderId fields.platformFeeCents) fields
    rw [List.map_append, List.map_singleton, movement]

end Effects

/-- Whatever a request does, its books and its log tell of the same movements. -/
theorem Effect.records {service : OrderService} {world after : World} {request : Request}
    (effect : Effect service world request after) :
    ∃ movements, world.Records after movements := by
  cases effect with
  | none _ idle => exact ⟨[], (List.append_nil _).symm, (List.append_nil _).symm⟩
  | registered tenant ref actor stamp allowed =>
    refine ⟨[], ?_, (List.append_nil _).symm⟩
    rw [afterRegister, World.movements_logged,
      told_other (by simp [createdCall]) (by simp [createdCall])]
    rfl
  | denied tenant ref call actor reason readings valid foreign =>
    exact ⟨[], (List.append_nil _).symm, (List.append_nil _).symm⟩
  | changed tenant ref call actor reason readings valid allowed noRefund noSettlement =>
    exact ⟨[], service.afterChange_records ref call.target actor reason readings world⟩
  | settled tenant ref call actor reason readings valid allowed completed split calculated entry built =>
    exact ⟨_, service.afterSettlement_records ref .completed actor reason readings world split built⟩
  | unrefunded tenant ref actor reason readings valid allowed configured error raised =>
    exact ⟨[], service.afterRefund_records ref actor reason readings world⟩
  | cancelled tenant ref actor reason readings valid allowed refundRef =>
    obtain ⟨told, booked⟩ := service.afterRefund_records ref actor reason readings world
    refine ⟨[], ?_, booked⟩
    rw [afterCancel, World.movements_logged, told,
      told_other (by simp [cancelledCall]) (by simp [cancelledCall])]
    exact List.append_nil _
  | reversed tenant ref actor fraction reason entryStamp auditStamp snapshot captured rate reversal
      reversed entry built =>
    exact ⟨_, service.afterReversal_records ref actor reason world built⟩

end OrderService

namespace Shop

/-- Requests to either service keep the books reconciled with the log. -/
theorem step_reconciled {service : OrderService} {shop : Shop} (reconciled : shop.world.Reconciled)
    (request : ShopRequest) : (step service shop request).world.Reconciled := by
  have effect := step_effect service shop request
  generalize step service shop request = after at effect ⊢
  cases effect with
  | service request world effect =>
    obtain ⟨movements, records⟩ := effect.records
    exact reconciled.records records
  | refused ref call => exact reconciled
  | advanced ref call change event valid source => exact reconciled

/--
After every run the ledger can be rebuilt from the export of the audit log alone.

Its records of settlements and reversals tell of the ledger's entries one by one and in their order,
so that the fees they add up to are the totals that the ledger reports, for each tenant and for all.
-/
theorem ledger_from_export (service : OrderService) (orders : OrderRef → Order) (nextRef : OrderRef)
    (requests : List ShopRequest) (stamps : Nat → Stamp) :
    let world := (requests.foldl (step service) ⟨World.fresh orders nextRef, []⟩).world
    ∃ entries, readExport? stamps (exportEntriesJsonl world.audit.entries) = some entries ∧
      entries.filterMap AuditEntry.movement? = world.ledger.entries.map LedgerEntry.movement ∧
      ∀ tenantId, world.ledger.platformFeeTotal tenantId =
        Movement.feeTotal tenantId (entries.filterMap AuditEntry.movement?) := by
  intro world
  have reconciled : world.Reconciled :=
    Run.foldl_invariant (step service) (fun shop request reconciled _ =>
      @step_reconciled service shop reconciled request) rfl
      (Run.allSteps_of_forall (step service) (fun _ _ => trivial) _)
  have told : world.audit.entries.filterMap AuditEntry.movement? =
    world.ledger.entries.map LedgerEntry.movement := reconciled
  refine ⟨world.audit.entries, readExport_export stamps _, told, fun tenantId => ?_⟩
  rw [told]
  exact Movement.platformFeeTotal_eq world.ledger tenantId

end Shop

end JolCommerce
