import JolCommerce.Commissions.EngineLaws
import JolCommerce.Numeric.IntegerPart

/-! For which amounts and rates the fee is truncated, and not rounded up by the decimal context. -/

namespace JolCommerce

open Python

namespace CommissionEngine

/-- An amount times a rate keeps its integer part in the digits of the context. -/
def FitsPrecision (gross : Int) : Decimal → Prop
  | .finite _ coefficient exponent =>
    Significant.KeepsWhole 28 (gross.natAbs * coefficient) exponent
  | _ => False

/-- The fee is the exact share without its decimals, so that nobody is charged for the rounding. -/
structure FeeTruncated (gross : Int) (number : ℚ) (split : CommissionSplit) : Prop where
  exact : split.platformFeeCents = ⌊gross * number⌋
  nonneg : 0 ≤ split.platformFeeCents
  atMost : split.platformFeeCents ≤ gross
  share : (split.platformFeeCents : ℚ) ≤ gross * number
  settlement : 0 ≤ split.tenantSettlementCents
  balanced : split.platformFeeCents + split.tenantSettlementCents = gross

/-- The floor of an exact share gives everything else. -/
theorem feeTruncated_of_floor {gross : Int} (nonneg : 0 ≤ gross) {number : ℚ} (lower : 0 ≤ number)
    (upper : number ≤ 1) {split : CommissionSplit}
    (balanced : split.platformFeeCents + split.tenantSettlementCents = gross)
    (exact : split.platformFeeCents = ⌊gross * number⌋) : FeeTruncated gross number split := by
  have grossNonneg : (0 : ℚ) ≤ gross := by exact_mod_cast nonneg
  have share : (split.platformFeeCents : ℚ) ≤ gross * number := by
    rw [exact]
    exact Int.floor_le _
  have feeNonneg : 0 ≤ split.platformFeeCents := by
    rw [exact]
    exact Int.floor_nonneg.mpr (mul_nonneg grossNonneg lower)
  -- A rate of at most one takes at most the amount.
  have atMost : split.platformFeeCents ≤ gross := by
    have whole : (split.platformFeeCents : ℚ) ≤ gross :=
      share.trans (mul_le_of_le_one_right grossNonneg upper)
    exact_mod_cast whole
  exact ⟨exact, feeNonneg, atMost, share, by omega, balanced⟩

/--
For every amount and every valid rate in force the fee is the exact share without its decimals,
exactly when the product of the two keeps its integer part in twenty-eight significant digits.

The context rounds the product half to even before its decimals are dropped, so that a share just
below an integer is charged in full, and a share beyond the precision is not charged exactly.
-/
theorem fee_truncated_iff (engine : CommissionEngine) {gross : Int} (nonneg : 0 ≤ gross)
    {tenantRate : Option String} {rate : Decimal} (inForce : engine.rateFor tenantRate = .ok rate)
    (valid : validateRate rate = .ok ()) :
    (∃ split number, engine.calculate gross tenantRate = .ok split ∧ Denotes rate number ∧
      FeeTruncated gross number split) ↔ FitsPrecision gross rate := by
  obtain ⟨number, denotes, lower, upper⟩ := (validateRate_ok_iff rate).mp valid
  obtain ⟨negative, coefficient, exponent, rfl, rfl⟩ := id denotes
  have product := productDown_nonneg nonneg lower
  -- The fee is the integer part of the rounded product.
  have returned : engine.calculate gross tenantRate = .ok
      ⟨.finite negative coefficient exponent, gross,
        Significant.whole (roundedProduct gross coefficient exponent),
        gross - Significant.whole (roundedProduct gross coefficient exponent)⟩ := by
    simp [calculate, not_lt.mpr nonneg, inForce, valid, product]
  have floor : ⌊gross * Decimal.value negative coefficient exponent⌋ =
      (Significant.whole (gross.natAbs * coefficient, exponent) : Int) := by
    rw [value_of_nonneg lower, ← roundedProduct_value nonneg, Significant.whole_eq_floor,
      Int.natCast_floor_eq_floor (Significant.value_nonneg _)]
  have exact : (Significant.whole (roundedProduct gross coefficient exponent) : Int) =
      ⌊gross * Decimal.value negative coefficient exponent⌋ ↔
        FitsPrecision gross (.finite negative coefficient exponent) := by
    rw [floor, Nat.cast_inj]
    exact Significant.whole_round_eq_iff (by norm_num) _ _
  rw [← exact]
  constructor
  · rintro ⟨split, other, same, otherDenotes, truncated⟩
    rw [returned] at same
    cases same
    rw [denotes.unique otherDenotes]
    exact truncated.exact
  · exact fun truncated => ⟨_, _, returned, denotes,
      feeTruncated_of_floor nonneg lower upper (by simp) truncated⟩

/-- A hundred euros at the default rate. -/
theorem fee_truncated_standard :
    ∃ split number, standard.calculate 10000 none = .ok split ∧
      Denotes standard.defaultRate number ∧ FeeTruncated 10000 number split :=
  (fee_truncated_iff standard (by decide) rfl standard.validated).mpr (by
    unfold FitsPrecision standard
    decide +kernel)

/-- One cent at a rate just below one, in twenty-nine digits, is charged in full. -/
theorem fee_rounded_up :
    ∃ split number, standard.calculate 1 (some "0.99999999999999999999999999999") = .ok split ∧
      Denotes split.rate number ∧ number < 1 ∧ split.platformFeeCents = 1 ∧
      ¬FeeTruncated 1 number split := by
  -- Twenty-nine nines round up to one in twenty-eight digits.
  have parsed : Decimal.parse? "0.99999999999999999999999999999" =
      some (.finite false (10 ^ 29 - 1) (-29)) := by decide +kernel
  have valid : validateRate (.finite false (10 ^ 29 - 1) (-29)) = .ok () := by decide +kernel
  have product : productDown 1 (.finite false (10 ^ 29 - 1) (-29)) = .ok 1 := by decide +kernel
  have returned : standard.calculate 1 (some "0.99999999999999999999999999999") =
      .ok ⟨.finite false (10 ^ 29 - 1) (-29), 1, 1, 0⟩ := by
    simp only [calculate, rateFor, readDecimal, parsed, valid, product, ok_bind]
    rfl
  have below : Decimal.value false (10 ^ 29 - 1) (-29) < 1 := by
    norm_num [Decimal.value, Significant.value]
  refine ⟨_, _, returned, ⟨_, _, _, rfl, rfl⟩, below, rfl, fun truncated => ?_⟩
  have share := truncated.share
  norm_num at share below
  linarith

end CommissionEngine

end JolCommerce
