import JolCommerce.Orders.Reversals

/-! Partial reversals of one completed order: what is left of the settlement after all of them. -/

namespace JolCommerce

open Python CommissionEngine

/-- A number with at most so many decimals. -/
def HasPlaces (places : Nat) (number : ℚ) : Prop := ∃ units : Int, number = units / 10 ^ places

/-- A product of up to fifteen digits with ten decimals fits the precision: it is only rounded down. -/
theorem ProductSpec.eq_floor {amount result : Int} {number : ℚ}
    (spec : ProductSpec amount number result) (nonneg : 0 ≤ amount) (small : amount < 10 ^ 15)
    (places : HasPlaces 10 number) (positive : 0 < number) (atMost : number ≤ 1) :
    result = ⌊amount * number⌋ := by
  obtain ⟨units, rfl⟩ := places
  -- Both factors are natural numbers, of at most fifteen and eleven digits.
  have unitsPositive : 0 < units := by
    have scaled : (0 : ℚ) < units := by
      have cleared := mul_pos positive (by norm_num : (0 : ℚ) < 10 ^ 10)
      rwa [div_mul_cancel₀ _ (by norm_num)] at cleared
    exact_mod_cast scaled
  have unitsSmall : units ≤ 10 ^ 10 := by
    rw [div_le_one (by norm_num)] at atMost
    exact_mod_cast atMost
  obtain ⟨wholeAmount, rfl⟩ := Int.eq_ofNat_of_zero_le nonneg
  obtain ⟨wholeUnits, rfl⟩ := Int.eq_ofNat_of_zero_le unitsPositive.le
  -- The exact product has at most twenty-five digits, which the context does not round.
  apply spec.exact (wholeAmount * wholeUnits) (-10)
  · have amountBound : wholeAmount ≤ 10 ^ 15 := by omega
    have unitsBound : wholeUnits ≤ 10 ^ 10 := by omega
    calc wholeAmount * wholeUnits ≤ 10 ^ 15 * 10 ^ 10 := Nat.mul_le_mul amountBound unitsBound
      _ < 10 ^ 28 := by norm_num
  · simp only [Significant.value]
    push_cast
    rw [zpow_neg, mul_div_assoc', div_eq_mul_inv]
    norm_num

/-- A split with a fee between nothing and the gross amount, which is small enough to be exact. -/
structure SmallSplit (split : CommissionSplit) : Prop where
  feeNonneg : 0 ≤ split.platformFeeCents
  feeAtMost : split.platformFeeCents ≤ split.grossAmountCents
  small : split.grossAmountCents < 10 ^ 15
  balanced : split.platformFeeCents + split.tenantSettlementCents = split.grossAmountCents

/-- A calculated split of a small amount is one. -/
theorem calculate_smallSplit {engine : CommissionEngine} {gross : Int} {tenantRate : Option String}
    {split : CommissionSplit} (calculated : engine.calculate gross tenantRate = .ok split)
    (small : gross < 10 ^ 15) : SmallSplit split := by
  have spec := calculate_spec calculated
  obtain ⟨number, denotes, lower, upper⟩ := spec.isRate
  have fee := spec.fee number denotes
  have grossNonneg : (0 : ℚ) ≤ gross := by exact_mod_cast spec.nonneg
  have grossSmall : (gross : ℚ) < 10 ^ 15 := by exact_mod_cast small
  -- A rate of at most one takes at most the gross amount, and rounding adds less than a cent.
  have scaled : (gross : ℚ) * number ≤ gross := mul_le_of_le_one_right grossNonneg upper
  have below : (split.platformFeeCents : ℚ) < gross + 1 := by
    have bound := fee.upper
    linarith
  have whole : split.platformFeeCents < gross + 1 := by exact_mod_cast below
  have grossField := spec.gross_eq
  have sums := spec.balanced
  exact ⟨fee.nonneg, by omega, by omega, by omega⟩

section Sums

variable {split : CommissionSplit} {fractions : List String} {reversals : List LedgerEntry}

/-- The gross amount is rounded down and so is the fee: the settlement may be up to a cent more. -/
theorem Reverses.settlement_lt {fraction : String} {entry : LedgerEntry}
    (reverses : Reverses split fraction entry) (exact : SmallSplit split)
    (places : HasPlaces 10 (fractionValue fraction)) :
    ((-entry.tenantSettlementCents : Int) : ℚ) <
      split.tenantSettlementCents * fractionValue fraction + 1 := by
  obtain ⟨_, _, _, positive, atMost⟩ := reverses.accepted
  have feeNonneg := exact.feeNonneg
  have feeAtMost := exact.feeAtMost
  have small := exact.small
  have gross := reverses.gross.eq_floor (by omega) small places positive atMost
  have fee := reverses.fee.eq_floor feeNonneg (by omega) places positive atMost
  -- What is reversed of the settlement is the difference of the two rounded amounts.
  have settled : -entry.tenantSettlementCents =
      -entry.grossAmountCents - -entry.platformFeeCents := by
    have balanced := entry.balanced
    omega
  have share : split.tenantSettlementCents = split.grossAmountCents - split.platformFeeCents := by
    have balanced := exact.balanced
    omega
  rw [settled, share, gross, fee, Int.cast_sub, Int.cast_sub]
  -- Rounding the gross amount down helps, rounding the fee down costs less than a cent.
  have lower := Int.floor_le ((split.grossAmountCents : ℚ) * fractionValue fraction)
  have upper := Int.lt_floor_add_one ((split.platformFeeCents : ℚ) * fractionValue fraction)
  linarith

/-- The settlements taken back exceed their share by at most a cent for each reversal. -/
theorem settlements_sum_le (reverses : List.Forall₂ (Reverses split) fractions reversals)
    (exact : SmallSplit split) (places : ∀ fraction ∈ fractions, HasPlaces 10 (fractionValue fraction)) :
    ((-(reversals.map LedgerEntry.tenantSettlementCents).sum : Int) : ℚ) ≤
      split.tenantSettlementCents * (fractions.map fractionValue).sum + reversals.length := by
  -- One cent for each reversal, by induction over the reversals.
  induction reverses with
  | nil => simp
  | cons head tail ih =>
    have first := head.settlement_lt exact (places _ (by simp))
    have later := ih fun fraction member => places fraction (by simp [member])
    simp only [List.map_cons, List.sum_cons, List.length_cons]
    push_cast at first later ⊢
    linarith

/-- Fractions of at most one in total do not take back more than the gross amount. -/
theorem gross_left (reverses : List.Forall₂ (Reverses split) fractions reversals)
    (exact : SmallSplit split) (total : (fractions.map fractionValue).sum ≤ 1) :
    0 ≤ split.grossAmountCents + (reversals.map LedgerEntry.grossAmountCents).sum := by
  -- The amount of a small split is far below the bound on rounded products.
  have small : split.grossAmountCents < 2 * 10 ^ 27 := exact.small.trans (by norm_num)
  have bounded : -(reversals.map LedgerEntry.grossAmountCents).sum ≤ split.grossAmountCents :=
    products_sum_le_amount (exact.feeNonneg.trans exact.feeAtMost) small
      (reverses.imp fun _ _ reversed => reversed.gross) total
  omega

/-- Nor do they take back more than the fee. -/
theorem fee_left (reverses : List.Forall₂ (Reverses split) fractions reversals)
    (exact : SmallSplit split) (total : (fractions.map fractionValue).sum ≤ 1) :
    0 ≤ split.platformFeeCents + (reversals.map LedgerEntry.platformFeeCents).sum := by
  have small : split.platformFeeCents < 2 * 10 ^ 27 :=
    (exact.feeAtMost.trans_lt exact.small).trans (by norm_num)
  have bounded : -(reversals.map LedgerEntry.platformFeeCents).sum ≤ split.platformFeeCents :=
    products_sum_le_amount exact.feeNonneg small (reverses.imp fun _ _ reversed => reversed.fee) total
  omega

/-- Fractions of at most one in total leave at least minus one cent for each reversal but the first. -/
theorem settlement_left (reverses : List.Forall₂ (Reverses split) fractions reversals)
    (exact : SmallSplit split) (places : ∀ fraction ∈ fractions, HasPlaces 10 (fractionValue fraction))
    (total : (fractions.map fractionValue).sum ≤ 1) :
    -((reversals.length - 1 : Nat) : Int) ≤
      split.tenantSettlementCents + (reversals.map LedgerEntry.tenantSettlementCents).sum := by
  have settlementNonneg : 0 ≤ split.tenantSettlementCents := by
    have feeAtMost := exact.feeAtMost
    have balanced := exact.balanced
    omega
  cases reverses with
  | nil => simpa using settlementNonneg
  | cons head tail =>
    -- The first reversal is strictly less than its share and a cent; that cent is saved.
    have first := head.settlement_lt exact (places _ (by simp))
    have later := settlements_sum_le tail exact fun fraction member => places fraction (by simp [member])
    have shares := mul_le_of_le_one_right
      (by exact_mod_cast settlementNonneg : (0 : ℚ) ≤ split.tenantSettlementCents) total
    simp only [List.map_cons, List.sum_cons, List.length_cons, Nat.add_sub_cancel] at shares ⊢
    rename_i fraction entry fractions reversals
    have below : ((-(entry.tenantSettlementCents +
        (reversals.map LedgerEntry.tenantSettlementCents).sum) : Int) : ℚ) <
        split.tenantSettlementCents + reversals.length + 1 := by
      push_cast at first later ⊢
      linarith
    have whole : -(entry.tenantSettlementCents +
        (reversals.map LedgerEntry.tenantSettlementCents).sum) <
        split.tenantSettlementCents + reversals.length + 1 := by
      exact_mod_cast below
    omega

end Sums

namespace OrderService

/-- The arguments of one reversal call, with the readings it takes. -/
structure ReversalCall where
  actor : String
  fraction : String
  reason : String
  entryStamp : Stamp
  auditStamp : Stamp

/-- One `record_commission_reversal` after another on an order; the first that raises ends it. -/
def recordReversals (service : OrderService) (ref : OrderRef) (calls : List ReversalCall) :
    ServiceM (List LedgerEntry) :=
  calls.mapM fun call => service.recordCommissionReversal ref call.actor call.fraction call.reason
    call.entryStamp call.auditStamp

section Recording

variable (service : OrderService) {ref : OrderRef} {split : CommissionSplit}

/-- A reversal of an accepted fraction of a captured split returns and appends its entry. -/
theorem recordCommissionReversal_accepted (isRate : IsRate split.rate) (exact : SmallSplit split)
    {world : World} (captured : (world.orders ref).commissionSnapshot = some (snapshotOf split))
    (call : ReversalCall) {number : ℚ} (accepted : AcceptedFraction call.fraction number) :
    ∃ entry after, (service.recordCommissionReversal ref call.actor call.fraction call.reason
        call.entryStamp call.auditStamp).run world = .ok entry after ∧
      Reverses split call.fraction entry ∧ after.orders = world.orders ∧
      after.ledger = world.ledger.append entry ∧ entry.orderId = (world.orders ref).orderId := by
  have grossNonneg : 0 ≤ split.grossAmountCents := exact.feeNonneg.trans exact.feeAtMost
  obtain ⟨reversal, entry, reversed, fields, recorded⟩ :=
    recordCommissionReversal_captured service isRate grossNonneg exact.feeNonneg exact.balanced
      captured call.actor call.reason accepted call.entryStamp call.auditStamp
  refine ⟨entry, _, recorded, ?_, rfl, rfl, congrArg LedgerArguments.orderId fields⟩
  exact reverses_of_reverse reversed grossNonneg exact.feeNonneg fields

/-- So do any number of them, and the order's entries are what was there and theirs. -/
theorem recordReversals_accepted (isRate : IsRate split.rate) (exact : SmallSplit split)
    {world : World} (captured : (world.orders ref).commissionSnapshot = some (snapshotOf split))
    {calls : List ReversalCall}
    (accepted : ∀ call ∈ calls, ∃ number, AcceptedFraction call.fraction number) :
    ∃ reversals after, (service.recordReversals ref calls).run world = .ok reversals after ∧
      List.Forall₂ (Reverses split) (calls.map ReversalCall.fraction) reversals ∧
      after.ledger.forOrder (world.orders ref).orderId =
        world.ledger.forOrder (world.orders ref).orderId ++ reversals := by
  -- The orders stay as they are, so each call finds the snapshot the first one found.
  induction calls generalizing world with
  | nil => exact ⟨[], world, rfl, .nil, (List.append_nil _).symm⟩
  | cons call rest ih =>
    obtain ⟨number, fraction⟩ := accepted call (by simp)
    obtain ⟨entry, between, returned, reverses, orders, ledger, orderId⟩ :=
      service.recordCommissionReversal_accepted isRate exact captured call fraction
    obtain ⟨reversals, after, later, others, entries⟩ := ih (orders ▸ captured)
      fun next member => accepted next (by simp [member])
    refine ⟨entry :: reversals, after, ?_, .cons reverses others, ?_⟩
    · unfold recordReversals at later ⊢
      rw [List.mapM_cons, EStateM.run_bind, returned]
      simp only [EStateM.run_bind, later]
      rfl
    · rw [orders, ledger, CommissionLedger.forOrder_append, if_pos orderId] at entries
      rw [entries, List.append_assoc, List.singleton_append]

end Recording

/-- The balance of a settlement and its reversals. -/
private theorem balance_settled {order : Order} {split : CommissionSplit} {settlement : LedgerEntry}
    (fields : settlement.fields = settlementFields order split) (reversals : List LedgerEntry) :
    Balance.of (settlement :: reversals) =
      ⟨split.grossAmountCents + (reversals.map LedgerEntry.grossAmountCents).sum,
        split.platformFeeCents + (reversals.map LedgerEntry.platformFeeCents).sum,
        split.tenantSettlementCents + (reversals.map LedgerEntry.tenantSettlementCents).sum⟩ := by
  -- The entry of a settlement has the amounts of the split.
  have gross : settlement.grossAmountCents = split.grossAmountCents :=
    congrArg LedgerArguments.grossAmountCents fields
  have fee : settlement.platformFeeCents = split.platformFeeCents :=
    congrArg LedgerArguments.platformFeeCents fields
  have share : settlement.tenantSettlementCents = split.tenantSettlementCents :=
    congrArg LedgerArguments.tenantSettlementCents fields
  simp only [Balance.of, List.map_cons, List.sum_cons, gross, fee, share]

/--
Reversals of fractions with at most ten decimals and a sum of at most one are all recorded on a
completed order below ten to the fifteenth cents, and leave neither the gross amount nor the fee
negative. The settlement, whose reversal is what the two separate roundings leave, may end up
negative by up to one cent for each reversal after the first.
-/
theorem partial_reversals_net {service : OrderService} {tenant : Option TenantContext}
    {ref : OrderRef} {actor reason : String} {readings : LifecycleReadings} {world settled : World}
    {change : OrderStateChange}
    (completed : (service.complete tenant ref actor reason readings).run world = .ok change settled)
    (unbooked : world.ledger.forOrder (world.orders ref).orderId = [])
    (small : (world.orders ref).totalAmountCents < 10 ^ 15) {calls : List ReversalCall}
    (fractions : ∀ call ∈ calls, ∃ number, AcceptedFraction call.fraction number ∧
      HasPlaces 10 number)
    (total : (calls.map fun call => fractionValue call.fraction).sum ≤ 1) :
    ∃ split settlement reversals after,
      service.commissionEngine.calculate (world.orders ref).totalAmountCents (boundRate tenant) =
        .ok split ∧
      settlement.fields = settlementFields (world.orders ref) split ∧
      (service.recordReversals ref calls).run settled = .ok reversals after ∧
      reversals.length = calls.length ∧
      after.ledger.forOrder (world.orders ref).orderId = settlement :: reversals ∧
      0 ≤ (Balance.of (settlement :: reversals)).grossCents ∧
      0 ≤ (Balance.of (settlement :: reversals)).platformFeeCents ∧
      -((calls.length - 1 : Nat) : Int) ≤
        (Balance.of (settlement :: reversals)).tenantSettlementCents := by
  -- The completion returned, so it settled; the rest is the three sums over the order's entries.
  have outcome := transition_outcome service tenant ref .completed actor reason readings world
  unfold complete at completed
  rw [completed] at outcome
  cases outcome with
  | changed valid allowed open_ => exact absurd rfl open_
  | settled valid allowed _ split calculated settlement built =>
    have fields := LedgerEntry.new_fields built
    have exact := calculate_smallSplit calculated small
    have write := service.afterSettlement_write ref .completed actor reason readings world fields
    have order := congrFun write.orders ref
    rw [Function.update_self] at order
    have orderId : ((service.afterSettlement ref .completed actor reason readings world split
        settlement).orders ref).orderId = (world.orders ref).orderId := by
      rw [order]
      exact write.orderId
    obtain ⟨reversals, after, recorded, reverses, entries⟩ :=
      service.recordReversals_accepted (calculate_spec calculated).isRate exact
        (by rw [order]) fun call member => (fractions call member).imp fun _ given => given.1
    have count : reversals.length = calls.length := by
      have lengths := reverses.length_eq
      rw [List.length_map] at lengths
      exact lengths.symm
    have sum : ((calls.map ReversalCall.fraction).map fractionValue).sum ≤ 1 := by
      simpa only [List.map_map, Function.comp_def] using total
    have places : ∀ fraction ∈ calls.map ReversalCall.fraction,
        HasPlaces 10 (fractionValue fraction) := by
      intro fraction member
      obtain ⟨call, listed, rfl⟩ := List.mem_map.mp member
      obtain ⟨number, accepted, tenPlaces⟩ := fractions call listed
      rw [accepted.value_eq]
      exact tenPlaces
    refine ⟨split, settlement, reversals, after, calculated, fields, recorded, count, ?_, ?_⟩
    · -- The order had no entries, so its settlement is the first.
      rw [orderId, write.entries, unbooked] at entries
      exact entries
    · rw [balance_settled fields]
      refine ⟨gross_left reverses exact sum, fee_left reverses exact sum, ?_⟩
      rw [← count]
      exact settlement_left reverses exact places sum

/-- Orders of ten cents in progress. -/
def workedOrders (ref : OrderRef) : Order :=
  { draftOrders ref with status := .inProgress, totalAmountCents := 10 }

/-- A completion without a bound tenant, so at the default rate of ten percent. -/
def sampleCompletion : ServiceM OrderStateChange :=
  sampleService.complete none 0 "clerk" "" (sampleReadings (.ok ""))

/-- The reversal of half of an order. -/
def halfCall : ReversalCall := ⟨"clerk", "0.5", "", Stamp.sample, Stamp.sample⟩

private theorem halfCall_accepted :
    ∃ number, AcceptedFraction halfCall.fraction number ∧ HasPlaces 10 number := by
  -- A half is accepted and has one decimal.
  refine ⟨1 / 2, ⟨.finite false 5 (-1), by decide +kernel, ⟨_, _, _, rfl, ?_⟩, ?_⟩, 5 * 10 ^ 9, ?_⟩
  · norm_num [Decimal.value, Significant.value]
  · norm_num
  · norm_num

/-- Two halves of an order of ten cents leave the settlement negative by at most one cent. -/
theorem partial_reversals_net_halves :
    ∃ change settled reversals after,
      sampleCompletion.run (World.fresh workedOrders 1) = .ok change settled ∧
      (sampleService.recordReversals 0 [halfCall, halfCall]).run settled = .ok reversals after ∧
      -1 ≤ (Balance.of (after.ledger.forOrder (workedOrders 0).orderId)).tenantSettlementCents := by
  -- The completion is computed once, and the reversals follow from the theorem.
  have returns : (match sampleCompletion.run (World.fresh workedOrders 1) with
      | .ok _ _ => true
      | .error _ _ => false) = true := by decide +kernel
  cases completed : sampleCompletion.run (World.fresh workedOrders 1) with
  | error error settled => simp [completed] at returns
  | ok change settled =>
    obtain ⟨split, settlement, reversals, after, -, -, recorded, -, entries, -, -, left⟩ :=
      partial_reversals_net completed rfl (by decide +kernel)
        (fun call member => by
          have half : call = halfCall := by simpa using member
          rw [half]
          exact halfCall_accepted)
        (show ([halfCall, halfCall].map fun call => fractionValue call.fraction).sum ≤ 1 by
          decide +kernel)
    refine ⟨change, settled, reversals, after, rfl, recorded, ?_⟩
    have same : (World.fresh workedOrders 1).orders 0 = workedOrders 0 := rfl
    rw [same] at entries
    rw [entries]
    simpa using left

/-- Two halves of an order of ten cents take back ten of the nine cents that were settled. -/
theorem partial_reversals_overdraw :
    let after := stateAfter (sampleService.recordReversals 0 [halfCall, halfCall])
      (stateAfter sampleCompletion (World.fresh workedOrders 1))
    let entries := after.ledger.forOrder (workedOrders 0).orderId
    (workedOrders 0).totalAmountCents < 10 ^ 15 ∧
      (∃ number, AcceptedFraction halfCall.fraction number ∧ HasPlaces 10 number) ∧
      ([halfCall, halfCall].map fun call => fractionValue call.fraction).sum ≤ 1 ∧
      entries.map LedgerEntry.tenantSettlementCents = [9, -5, -5] ∧
      Balance.of entries = ⟨0, 1, -1⟩ ∧ ¬0 ≤ (Balance.of entries).tenantSettlementCents := by
  refine ⟨by decide +kernel, halfCall_accepted, by decide +kernel, by decide +kernel,
    by decide +kernel, by decide +kernel⟩

end OrderService

end JolCommerce
