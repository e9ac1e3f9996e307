import JolCommerce.Commissions.LedgerTotals
import JolCommerce.Numeric.IntegerPart
import JolCommerce.Orders.PartialReversals

/-! A full reversal takes back what was settled, to the cent, and leaves no trace in any total. -/

namespace JolCommerce

open Python CommissionEngine

/-- A factor of one keeps an amount that has few enough digits. -/
theorem ProductSpec.eq_amount {amount result : Int} (spec : ProductSpec amount 1 result)
    {small : Nat} {scale : Int} (fits : small < 10 ^ 28)
    (form : (amount : ℚ) = Significant.value (small, scale)) : result = amount := by
  have floor := spec.exact small scale fits (by rw [mul_one, form])
  rwa [mul_one, Int.floor_intCast] at floor

/-- A fee has few enough digits, since it was rounded. -/
theorem productDown_fits {amount fee : Int} (nonneg : 0 ≤ amount) {factor : Decimal} {number : ℚ}
    (denotes : Denotes factor number) (factorNonneg : 0 ≤ number)
    (product : productDown amount factor = .ok fee) :
    ∃ (small : Nat) (scale : Int), small < 10 ^ 28 ∧ (fee : ℚ) = Significant.value (small, scale) := by
  -- The product is rounded to the precision before its decimals are dropped.
  obtain ⟨negative, coefficient, exponent, rfl, rfl⟩ := denotes
  rw [productDown_nonneg nonneg factorNonneg] at product
  cases product
  obtain ⟨small, scale, fits, form⟩ :=
    Significant.whole_round_fits (by norm_num : 0 < 28) (amount.natAbs * coefficient) exponent
  exact ⟨small, scale, fits, by exact_mod_cast form⟩

namespace CommissionEngine

/-- The fee of a split is the rounded product of its amount and its rate. -/
theorem calculate_fee {engine : CommissionEngine} {gross : Int} {tenantRate : Option String}
    {split : CommissionSplit} (returned : engine.calculate gross tenantRate = .ok split) :
    productDown gross split.rate = .ok split.platformFeeCents := by
  -- The product is the last step of the body that can raise.
  unfold calculate at returned
  by_cases negative : gross < 0
  · simp [negative] at returned
  · rw [if_neg negative] at returned
    obtain ⟨rate, _, returned⟩ := bind_eq_ok returned
    obtain ⟨_, _, returned⟩ := bind_eq_ok returned
    obtain ⟨fee, product, returned⟩ := bind_eq_ok returned
    cases returned
    exact product

/-- The full reversal of a calculated split of an amount that fits is the split itself. -/
theorem reverse_full {engine : CommissionEngine} {gross : Int} {tenantRate : Option String}
    {split reversal : CommissionSplit} (calculated : engine.calculate gross tenantRate = .ok split)
    (small : gross < 10 ^ 28) {fraction : String} (full : AcceptedFraction fraction 1)
    (reversed : reverse split fraction = .ok reversal) :
    reversal.grossAmountCents = split.grossAmountCents ∧
      reversal.platformFeeCents = split.platformFeeCents ∧
      reversal.tenantSettlementCents = split.tenantSettlementCents := by
  have spec := calculate_spec calculated
  obtain ⟨number, denotes, lower, -⟩ := spec.isRate
  have grossNonneg : 0 ≤ split.grossAmountCents := by
    rw [spec.gross_eq]
    exact spec.nonneg
  have feeNonneg := (spec.fee number denotes).nonneg
  obtain ⟨result, returned, -, grossSpec, feeSpec, sums⟩ := reverse_ok full grossNonneg feeNonneg
  rw [reversed] at returned
  cases returned
  -- The amount fits the precision, and so does the fee, which was rounded to it.
  have grossSame : reversal.grossAmountCents = split.grossAmountCents := by
    have magnitude : ((split.grossAmountCents.toNat : Nat) : Int) = split.grossAmountCents :=
      Int.toNat_of_nonneg grossNonneg
    have fits : split.grossAmountCents.toNat < 10 ^ 28 := by
      rw [spec.gross_eq] at magnitude ⊢
      omega
    have form : (split.grossAmountCents : ℚ) =
        Significant.value (split.grossAmountCents.toNat, 0) := by
      simp only [Significant.value, zpow_zero, mul_one]
      exact_mod_cast magnitude.symm
    exact grossSpec.eq_amount fits form
  have feeSame : reversal.platformFeeCents = split.platformFeeCents := by
    obtain ⟨digits, scale, fits, form⟩ :=
      productDown_fits spec.nonneg denotes lower (calculate_fee calculated)
    exact feeSpec.eq_amount fits form
  -- The settlement is the rest of the amount in both.
  have balanced := spec.balanced
  have gross := spec.gross_eq
  exact ⟨grossSame, feeSame, by omega⟩

end CommissionEngine

/-- An entry with the negated amounts of another one, for the same tenant. -/
structure LedgerEntry.Negates (reversal settlement : LedgerEntry) : Prop where
  gross : reversal.grossAmountCents = -settlement.grossAmountCents
  fee : reversal.platformFeeCents = -settlement.platformFeeCents
  share : reversal.tenantSettlementCents = -settlement.tenantSettlementCents
  tenantId : reversal.tenantId = settlement.tenantId
  currency : reversal.currency = settlement.currency
  rate : reversal.rate = settlement.rate

/-- Totals are as if neither of two such entries had been written. -/
theorem LedgerEntry.Negates.totals {reversal settlement : LedgerEntry}
    (negates : reversal.Negates settlement) (before between after : List LedgerEntry)
    (scope : Option String) :
    let whole : CommissionLedger := ⟨before ++ settlement :: (between ++ reversal :: after)⟩
    let without : CommissionLedger := ⟨before ++ (between ++ after)⟩
    whole.dailyReconciliationBalance scope = without.dailyReconciliationBalance scope ∧
      whole.platformFeeTotal scope = without.platformFeeTotal scope := by
  -- Each field of the two entries cancels in the sum over any scope that has both.
  have cancels : ∀ field : LedgerEntry → Int, field reversal = -field settlement → _ :=
    fun field opposite => CommissionLedger.total_cancels negates.tenantId opposite before between
      after scope
  intro whole without
  unfold CommissionLedger.dailyReconciliationBalance CommissionLedger.platformFeeTotal
  rw [whole.entriesInScope_eq, without.entriesInScope_eq]
  refine ⟨Balance.ext ?_ ?_ ?_, ?_⟩
  · exact cancels _ negates.gross
  · exact cancels _ negates.fee
  · exact cancels _ negates.share
  · exact cancels _ negates.fee

namespace OrderService

/-- The entry of a reversal negates that of the settlement whose amounts it takes back. -/
theorem negates_of_fields {order later : Order} {split reversal : CommissionSplit}
    {settlement entry : LedgerEntry} (settles : settlement.fields = settlementFields order split)
    (fields : entry.fields = reversalFields later (snapshotOf split) reversal)
    (tenantId : later.tenantId = order.tenantId) (currency : later.currency = order.currency)
    (gross : reversal.grossAmountCents = split.grossAmountCents)
    (fee : reversal.platformFeeCents = split.platformFeeCents)
    (share : reversal.tenantSettlementCents = split.tenantSettlementCents) :
    entry.Negates settlement := by
  -- Field by field, each entry has what it was written with.
  simp only [LedgerEntry.fields, settlementFields, LedgerArguments.mk.injEq] at settles
  simp only [LedgerEntry.fields, reversalFields, snapshotOf, LedgerArguments.mk.injEq] at fields
  obtain ⟨settledTenant, -, settledCurrency, settledGross, settledFee, settledShare, settledRate⟩ :=
    settles
  obtain ⟨ownTenant, -, ownCurrency, ownGross, ownFee, ownShare, ownRate⟩ := fields
  refine ⟨?_, ?_, ?_, ?_, ?_, ?_⟩
  · rw [ownGross, gross, settledGross]
  · rw [ownFee, fee, settledFee]
  · rw [ownShare, share, settledShare]
  · rw [ownTenant, tenantId, settledTenant]
  · rw [ownCurrency, currency, settledCurrency]
  · rw [ownRate, settledRate]

/--
The full reversal of a completed order appends the negated settlement entry, and all totals are as
if neither entry had been written, whatever the ledger holds before, between and after them.

The settlement comes back from its snapshot: the rate from its text, the amount from its two parts.
-/
theorem full_reversal_cancels {service : OrderService} {tenant : Option TenantContext}
    {ref : OrderRef} {actor reason : String} {readings : LifecycleReadings} {world settled : World}
    {change : OrderStateChange}
    (completed : (service.transition tenant ref .completed actor reason readings).run world =
      .ok change settled)
    (small : (world.orders ref).totalAmountCents < 10 ^ 28) {between : World}
    (kept : between.orders ref = settled.orders ref) {middle : List LedgerEntry}
    (appended : between.ledger.entries = settled.ledger.entries ++ middle) (clerk cause : String)
    {fraction : String} {number : Decimal} (parsed : Decimal.parse? fraction = some number)
    (one : Denotes number 1) (entryStamp auditStamp : Stamp) :
    ∃ settlement reversal after,
      settled.ledger.entries = world.ledger.entries ++ [settlement] ∧
      (service.recordCommissionReversal ref clerk fraction cause entryStamp auditStamp).run between =
        .ok reversal after ∧
      after.ledger.entries = between.ledger.entries ++ [reversal] ∧ reversal.Negates settlement ∧
      ∀ later scope,
        let whole : CommissionLedger := ⟨after.ledger.entries ++ later⟩
        let without : CommissionLedger := ⟨world.ledger.entries ++ (middle ++ later)⟩
        whole.dailyReconciliationBalance scope = without.dailyReconciliationBalance scope ∧
          whole.platformFeeTotal scope = without.platformFeeTotal scope := by
  -- The completion returned, so it settled, and the reversal finds the snapshot of its split.
  have outcome := transition_outcome service tenant ref .completed actor reason readings world
  rw [completed] at outcome
  cases outcome with
  | changed valid allowed open_ => exact absurd rfl open_
  | settled valid allowed _ split calculated settlement built =>
    have spec := calculate_spec calculated
    obtain ⟨rate, denotes, -⟩ := spec.isRate
    have settles := LedgerEntry.new_fields built
    have order := congrFun
      (service.afterSettlement_write ref .completed actor reason readings world settles).orders ref
    rw [Function.update_self, ← kept] at order
    -- Whatever happened between, the order still holds the snapshot.
    have captured : (between.orders ref).commissionSnapshot = some (snapshotOf split) := by
      rw [order]
    have full : AcceptedFraction fraction 1 := ⟨number, parsed, one, one_pos, le_rfl⟩
    obtain ⟨reversal, entry, reversed, fields, recorded⟩ := recordCommissionReversal_captured service
      spec.isRate (spec.gross_eq ▸ spec.nonneg) (spec.fee rate denotes).nonneg
      (spec.gross_eq ▸ spec.balanced) captured clerk cause full entryStamp auditStamp
    obtain ⟨gross, fee, share⟩ := reverse_full calculated small full reversed
    have before : (service.afterSettlement ref .completed actor reason readings world split
        settlement).ledger.entries = world.ledger.entries ++ [settlement] := rfl
    have negates : entry.Negates settlement :=
      negates_of_fields settles fields (by rw [order]; rfl) (by rw [order]; rfl) gross fee share
    -- Entries before, between and after the two are any.
    refine ⟨settlement, entry, _, before, recorded, rfl, negates, fun later scope => ?_⟩
    have whole : (service.afterReversal ref clerk cause between fraction auditStamp reversal
        entry).ledger.entries ++ later =
          world.ledger.entries ++ settlement :: (middle ++ entry :: later) := by
      simp [afterReversal, CommissionLedger.append, appended, before]
    rw [whole]
    exact negates.totals world.ledger.entries middle later scope

/-- A sample order completes, and its full reversal finds the snapshot of the settlement. -/
theorem full_reversal_cancels_sample :
    ∃ change settled settlement reversal after,
      sampleCompletion.run (World.fresh workedOrders 1) = .ok change settled ∧
      (sampleService.recordCommissionReversal 0 "clerk" "1.0" "" Stamp.sample Stamp.sample).run
        settled = .ok reversal after ∧ reversal.Negates settlement := by
  -- The completion returns, and reversing its settlement at the factor one returns too.
  have returns : (match sampleCompletion.run (World.fresh workedOrders 1) with
      | .ok _ _ => true
      | .error _ _ => false) = true := by decide +kernel
  have one : Denotes (.finite false 10 (-1)) 1 :=
    ⟨false, 10, -1, rfl, by norm_num [Decimal.value, Significant.value]⟩
  cases completed : sampleCompletion.run (World.fresh workedOrders 1) with
  | error error settled => simp [completed] at returns
  | ok change settled =>
    obtain ⟨settlement, reversal, after, -, recorded, -, negates, -⟩ :=
      full_reversal_cancels completed (by decide +kernel) rfl (List.append_nil _).symm "clerk" ""
        (show Decimal.parse? "1.0" = some (.finite false 10 (-1)) by decide +kernel) one
        Stamp.sample Stamp.sample
    exact ⟨change, settled, settlement, reversal, after, rfl, recorded, negates⟩

end OrderService

end JolCommerce
