import JolCommerce.Commissions.Engine

/-! The commission ledger: append-only entries whose fee and settlement add up to the gross amount. -/

namespace JolCommerce

open Python

/-- One settlement or reversal entry; an unbalanced one cannot be built. -/
structure LedgerEntry where
  tenantId : String
  orderId : String
  currency : String
  grossAmountCents : Int
  platformFeeCents : Int
  tenantSettlementCents : Int
  rate : String
  entryId : String
  settledAt : String
  /-- What `__post_init__` checks. -/
  balanced : platformFeeCents + tenantSettlementCents = grossAmountCents

/-- The arguments a ledger entry is constructed with. -/
structure LedgerArguments where
  tenantId : String
  orderId : String
  currency : String
  grossAmountCents : Int
  platformFeeCents : Int
  tenantSettlementCents : Int
  rate : String

/-- `LedgerEntry(...)` with a drawn identifier and time, `ValueError` when it is unbalanced. -/
def LedgerEntry.new (fields : LedgerArguments) (stamp : Stamp) : Except PyError LedgerEntry :=
  if balanced : fields.platformFeeCents + fields.tenantSettlementCents = fields.grossAmountCents then
    .ok {
      tenantId := fields.tenantId
      orderId := fields.orderId
      currency := fields.currency
      grossAmountCents := fields.grossAmountCents
      platformFeeCents := fields.platformFeeCents
      tenantSettlementCents := fields.tenantSettlementCents
      rate := fields.rate
      entryId := stamp.uuid.toStr
      settledAt := stamp.moment.isoformat
      balanced := balanced }
  else .error (.valueError ("Ledger entry is unbalanced: fee + settlement != gross (" ++
    String.ofList (intText fields.platformFeeCents) ++ " + " ++
    String.ofList (intText fields.tenantSettlementCents) ++ " != " ++
    String.ofList (intText fields.grossAmountCents) ++ ")"))

/-- The fields an entry was built with. -/
def LedgerEntry.fields (entry : LedgerEntry) : LedgerArguments where
  tenantId := entry.tenantId
  orderId := entry.orderId
  currency := entry.currency
  grossAmountCents := entry.grossAmountCents
  platformFeeCents := entry.platformFeeCents
  tenantSettlementCents := entry.tenantSettlementCents
  rate := entry.rate

/-- An entry that was built holds the fields it was built with. -/
theorem LedgerEntry.new_fields {fields : LedgerArguments} {stamp : Stamp} {entry : LedgerEntry}
    (built : LedgerEntry.new fields stamp = .ok entry) : entry.fields = fields := by
  -- The constructor copies every argument and adds a stamp.
  unfold LedgerEntry.new at built
  split at built
  · cases built
    rfl
  · cases built

/-- The ledger, oldest entry first. -/
structure CommissionLedger where
  entries : List LedgerEntry

namespace CommissionLedger

/-- A ledger without entries. -/
def new : CommissionLedger := ⟨[]⟩

/-- `append(entry)`. -/
def append (ledger : CommissionLedger) (entry : LedgerEntry) : CommissionLedger :=
  ⟨ledger.entries ++ [entry]⟩

/-- The entries written for one order. -/
def forOrder (ledger : CommissionLedger) (orderId : String) : List LedgerEntry :=
  ledger.entries.filter fun entry => entry.orderId = orderId

/-- `entries_for_tenant(tenant_id)`. -/
def entriesForTenant (ledger : CommissionLedger) (tenantId : String) : List LedgerEntry :=
  ledger.entries.filter fun entry => entry.tenantId = tenantId

/-- `self.entries_for_tenant(tenant_id) if tenant_id else self._entries`. -/
def entriesInScope (ledger : CommissionLedger) : Option String → List LedgerEntry
  | none => ledger.entries
  -- An empty id is as false as no id.
  | some tenantId => if tenantId = "" then ledger.entries else ledger.entriesForTenant tenantId

/-- `platform_fee_total(tenant_id)`. -/
def platformFeeTotal (ledger : CommissionLedger) (tenantId : Option String) : Int :=
  ((ledger.entriesInScope tenantId).map LedgerEntry.platformFeeCents).sum

end CommissionLedger

/-- The totals of a reconciliation. -/
@[ext]
structure Balance where
  grossCents : Int
  platformFeeCents : Int
  tenantSettlementCents : Int
  deriving DecidableEq

/-- The sums `daily_reconciliation_balance` takes over the entries it looks at. -/
def Balance.of (entries : List LedgerEntry) : Balance where
  grossCents := (entries.map LedgerEntry.grossAmountCents).sum
  platformFeeCents := (entries.map LedgerEntry.platformFeeCents).sum
  tenantSettlementCents := (entries.map LedgerEntry.tenantSettlementCents).sum

/-- `daily_reconciliation_balance(tenant_id)`. -/
def CommissionLedger.dailyReconciliationBalance (ledger : CommissionLedger)
    (tenantId : Option String) : Balance :=
  .of (ledger.entriesInScope tenantId)

end JolCommerce
