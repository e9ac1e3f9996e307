import JolCommerce.Commissions.Engine

/-! What the commission engine accepts, and how close its rounded products are to the exact ones. -/

namespace JolCommerce

open Python

/-- A finite decimal together with the number it denotes. -/
def Denotes (decimal : Decimal) (number : ℚ) : Prop :=
  ∃ negative coefficient exponent, decimal = .finite negative coefficient exponent ∧
    Decimal.value negative coefficient exponent = number

/-- A decimal denotes at most one number. -/
theorem Denotes.unique {decimal : Decimal} {first second : ℚ} (left : Denotes decimal first)
    (right : Denotes decimal second) : first = second := by
  obtain ⟨negative, coefficient, exponent, rfl, rfl⟩ := left
  obtain ⟨_, _, _, same, rfl⟩ := right
  cases same
  rfl

/-- A finite decimal from zero to one. -/
def IsRate (rate : Decimal) : Prop := ∃ number, Denotes rate number ∧ 0 ≤ number ∧ number ≤ 1

/-- Comparison with an integer on the right follows the number denoted. -/
theorem decimalLt_ofInt {decimal : Decimal} {number : ℚ} (denotes : Denotes decimal number)
    (bound : Int) : decimalLt decimal (.ofInt bound) = .ok (decide (number < bound)) := by
  -- Both sides are finite, and an integer denotes itself.
  obtain ⟨negative, coefficient, exponent, rfl, rfl⟩ := denotes
  obtain ⟨form, denoted⟩ := Decimal.ofInt_eq bound
  rw [decimalLt, form, Decimal.lt_finite, denoted]
  rfl

/-- Comparison with an integer on the left follows the number denoted. -/
theorem ofInt_decimalLt {decimal : Decimal} {number : ℚ} (denotes : Denotes decimal number)
    (bound : Int) : decimalLt (.ofInt bound) decimal = .ok (decide ((bound : ℚ) < number)) := by
  -- The same with the sides exchanged.
  obtain ⟨negative, coefficient, exponent, rfl, rfl⟩ := denotes
  obtain ⟨form, denoted⟩ := Decimal.ofInt_eq bound
  rw [decimalLt, form, Decimal.lt_finite, denoted]
  rfl

/-- Exactly the finite decimals from zero to one are valid rates. -/
theorem validateRate_ok_iff (rate : Decimal) : validateRate rate = .ok () ↔ IsRate rate := by
  cases rate with
  | finite negative coefficient exponent =>
    have denotes : Denotes (.finite negative coefficient exponent)
      (Decimal.value negative coefficient exponent) := ⟨_, _, _, rfl, rfl⟩
    generalize Decimal.value negative coefficient exponent = number at denotes
    have unique : IsRate (.finite negative coefficient exponent) ↔ 0 ≤ number ∧ number ≤ 1 := by
      constructor
      · intro rate
        obtain ⟨other, otherDenotes, bounds⟩ := rate
        rw [denotes.unique otherDenotes]
        exact bounds
      · exact fun bounds => ⟨number, denotes, bounds⟩
    rw [unique, validateRate, decimalLt_ofInt denotes, ofInt_decimalLt denotes]
    -- The two comparisons of the check are the two bounds.
    by_cases below : number < 0
    · simp [below, not_le.mpr below]
    · by_cases above : 1 < number
      · simp [below, above, not_le.mpr above]
      · simp [below, above, not_lt.mp below, not_lt.mp above]
  | infinity negative =>
    -- The infinities fail one of the two comparisons.
    have raises : validateRate (.infinity negative) ≠ .ok () := by
      cases negative <;> decide +kernel
    -- What is not finite denotes no number.
    apply iff_of_false raises
    intro rated
    obtain ⟨number, ⟨_, _, _, same, -⟩, -⟩ := rated
    cases same
  | nan negative signaling payload =>
    -- The first comparison already raises.
    apply iff_of_false
    · intro accepted
      cases accepted
    · intro rated
      obtain ⟨number, ⟨_, _, _, same, -⟩, -⟩ := rated
      cases same

/-- The product of an amount and a factor as the context rounds it. -/
def roundedProduct (amount : Int) (coefficient : Nat) (exponent : Int) : Nat × Int :=
  Significant.round 28 (amount.natAbs * coefficient) exponent

private theorem coefficient_eq_zero {coefficient : Nat} {exponent : Int}
    (nonneg : 0 ≤ Decimal.value true coefficient exponent) : coefficient = 0 := by
  -- A decimal that is not negative and carries a minus sign is a zero.
  have power : (0 : ℚ) < 10 ^ exponent := zpow_pos (by norm_num) exponent
  simp only [Decimal.value, if_true, Significant.value] at nonneg
  by_contra nonzero
  have positive : (0 : ℚ) < coefficient := by
    exact_mod_cast Nat.pos_of_ne_zero nonzero
  have product := mul_pos positive power
  linarith

/-- A decimal that is not negative denotes its coefficient and exponent, whatever its sign. -/
theorem value_of_nonneg {negative : Bool} {coefficient : Nat} {exponent : Int}
    (nonneg : 0 ≤ Decimal.value negative coefficient exponent) :
    Decimal.value negative coefficient exponent = Significant.value (coefficient, exponent) := by
  cases negative with
  | false => rfl
  | true =>
    rw [coefficient_eq_zero nonneg]
    simp [Decimal.value, Significant.value]

private theorem toIntegralDown_toInt (negative : Bool) (coefficient : Nat) (exponent : Int) :
    (Decimal.toIntegralDown (.finite negative coefficient exponent) >>= Decimal.toInt) =
      Decimal.toInt (.finite negative coefficient exponent) := by
  -- Dropping the decimals first does not change the integer of a finite number.
  simp only [Decimal.toIntegralDown]
  split
  · rfl
  · simp [Decimal.toInt, Significant.whole]

/-- A product of numbers that are not negative is the integer part of the rounded product. -/
theorem productDown_nonneg {amount : Int} (nonneg : 0 ≤ amount) {negative : Bool}
    {coefficient : Nat} {exponent : Int}
    (factor : 0 ≤ Decimal.value negative coefficient exponent) :
    productDown amount (.finite negative coefficient exponent) =
      .ok (Significant.whole (roundedProduct amount coefficient exponent) : Int) := by
  have sign : decide (amount < 0) = false := by simpa using nonneg
  -- Signs do not arise for an amount and a factor that are not negative.
  unfold productDown roundedProduct
  simp only [Decimal.ofInt, Decimal.mul, sign, Bool.false_bne, zero_add, ok_bind]
  rw [toIntegralDown_toInt]
  simp only [Decimal.toInt]
  cases negative with
  | false => rfl
  | true =>
    -- The product of a negative zero is a negative zero, whose integer is zero.
    have zero : Significant.whole (Significant.round 28 0 exponent) = 0 := by
      simp [Significant.round, Significant.digits, Significant.whole]
    rw [coefficient_eq_zero factor, Nat.mul_zero]
    simp [zero, Except.mapError]

/-- An amount times a factor, exactly. -/
theorem roundedProduct_value {amount : Int} (nonneg : 0 ≤ amount) (coefficient : Nat)
    (exponent : Int) : Significant.value (amount.natAbs * coefficient, exponent) =
      amount * Significant.value (coefficient, exponent) := by
  have magnitude : (amount.natAbs : Int) = amount := by omega
  have cast : ((amount.natAbs : Nat) : ℚ) = (amount : ℚ) := by
    rw [← Int.cast_natCast, magnitude]
  simp only [Significant.value]
  push_cast
  rw [cast]
  ring

/-- What `productDown` returns for an amount and a factor that are not negative. -/
structure ProductSpec (amount : Int) (factor : ℚ) (result : Int) : Prop where
  nonneg : 0 ≤ result
  /-- Rounding to twenty-eight digits adds at most five units of the twenty-ninth. -/
  upper : (result : ℚ) ≤ amount * factor * (1 + 5 / 10 ^ 28)
  /-- Where the exact product has at most twenty-eight digits, only its decimals are dropped. -/
  exact : ∀ (digits : Nat) (scale : Int), digits < 10 ^ 28 →
    amount * factor = Significant.value (digits, scale) → result = ⌊amount * factor⌋

/-- The rounded product meets its specification. -/
theorem productDown_spec {amount : Int} (nonneg : 0 ≤ amount) {factor : Decimal} {number : ℚ}
    (denotes : Denotes factor number) (factorNonneg : 0 ≤ number) :
    ∃ result, productDown amount factor = .ok result ∧ ProductSpec amount number result := by
  obtain ⟨negative, coefficient, exponent, rfl, rfl⟩ := denotes
  refine ⟨_, productDown_nonneg nonneg factorNonneg, ?_⟩
  have product := roundedProduct_value nonneg coefficient exponent
  rw [← value_of_nonneg factorNonneg] at product
  rw [Significant.whole_eq_floor]
  refine ⟨Int.natCast_nonneg _, ?_, ?_⟩
  · -- The integer part is below the rounded product, which is close to the exact one.
    have floor := Nat.floor_le (Significant.value_nonneg (roundedProduct amount coefficient exponent))
    have close := Significant.value_round_close (by norm_num : 0 < 28)
      (amount.natAbs * coefficient) exponent
    rw [product] at close
    have upper := (abs_le.mp close).2
    have unit : (amount * Decimal.value negative coefficient exponent) / (2 * 10 ^ (28 - 1)) =
        amount * Decimal.value negative coefficient exponent * (5 / 10 ^ 28) := by
      norm_num
      ring
    rw [unit] at upper
    unfold roundedProduct at floor ⊢
    push_cast
    linarith
  -- A product with few enough digits in some form is not rounded at all.
  · intro digits scale fits same
    rw [← product] at same
    unfold roundedProduct
    rw [Significant.value_round_exact (by norm_num) fits same, product]
    rw [Int.natCast_floor_eq_floor]
    rw [← product]
    exact Significant.value_nonneg _

/-- A contract rate that a calculation accepts, where there is one. -/
def AcceptedRate (tenantRate : Option String) : Prop :=
  ∀ text, tenantRate = some text → ∃ rate, Decimal.parse? text = some rate ∧ IsRate rate

namespace CommissionEngine

/-- The rate in force is valid exactly when the contract rate is accepted. -/
theorem rateFor_valid_iff (engine : CommissionEngine) (tenantRate : Option String) :
    (∃ rate, engine.rateFor tenantRate = .ok rate ∧ IsRate rate) ↔ AcceptedRate tenantRate := by
  cases tenantRate with
  | none =>
    -- The default rate was validated when the engine was built.
    refine iff_of_true ⟨_, rfl, (validateRate_ok_iff _).mp engine.validated⟩ ?_
    intro text absent
    cases absent
  | some text =>
    -- A contract rate is read by the same constructor as everywhere else.
    have read : ∀ rate, engine.rateFor (some text) = .ok rate ↔ Decimal.parse? text = some rate := by
      intro rate
      simp only [rateFor, readDecimal]
      split <;> simp_all
    constructor
    · intro valid given same
      obtain ⟨rate, inForce, valid⟩ := valid
      cases same
      exact ⟨rate, (read rate).mp inForce, valid⟩
    · intro accepted
      obtain ⟨rate, parsed, valid⟩ := accepted text rfl
      exact ⟨rate, (read rate).mpr parsed, valid⟩

/-- What a calculation returns. -/
structure SplitSpec (engine : CommissionEngine) (gross : Int) (tenantRate : Option String)
    (split : CommissionSplit) : Prop where
  nonneg : 0 ≤ gross
  inForce : engine.rateFor tenantRate = .ok split.rate
  isRate : IsRate split.rate
  gross_eq : split.grossAmountCents = gross
  balanced : split.platformFeeCents + split.tenantSettlementCents = gross
  fee : ∀ number, Denotes split.rate number → ProductSpec gross number split.platformFeeCents

/-- A calculation returns a balanced split at the rate in force, or it raises. -/
theorem calculate_spec {engine : CommissionEngine} {gross : Int} {tenantRate : Option String}
    {split : CommissionSplit} (returned : engine.calculate gross tenantRate = .ok split) :
    SplitSpec engine gross tenantRate split := by
  -- Each line of the body either raises, which is excluded, or gives one part of the split.
  unfold calculate at returned
  by_cases negative : gross < 0
  · simp [negative] at returned
  · cases inForce : engine.rateFor tenantRate with
    | error error => simp [negative, inForce] at returned
    | ok rate =>
      cases valid : validateRate rate with
      | error error => simp [negative, inForce, valid] at returned
      | ok _ =>
        have isRate := (validateRate_ok_iff rate).mp valid
        obtain ⟨number, denotes, lower, -⟩ := id isRate
        obtain ⟨fee, product, spec⟩ := productDown_spec (not_lt.mp negative) denotes lower
        simp only [negative, if_false, inForce, valid, product, ok_bind, pure_eq,
          Except.ok.injEq] at returned
        cases returned
        refine ⟨not_lt.mp negative, inForce, isRate, rfl, by simp, ?_⟩
        intro other otherDenotes
        rw [← denotes.unique otherDenotes]
        exact spec

/-- A calculation succeeds exactly for an amount that is not negative and an accepted rate. -/
theorem calculate_ok_iff (engine : CommissionEngine) (gross : Int) (tenantRate : Option String) :
    (∃ split, engine.calculate gross tenantRate = .ok split) ↔
      0 ≤ gross ∧ AcceptedRate tenantRate := by
  rw [← rateFor_valid_iff engine]
  constructor
  · intro returns
    obtain ⟨split, returned⟩ := returns
    have spec := calculate_spec returned
    exact ⟨spec.nonneg, split.rate, spec.inForce, spec.isRate⟩
  · intro accepted
    obtain ⟨nonneg, rate, inForce, isRate⟩ := accepted
    -- The product of a valid rate never raises.
    have valid := (validateRate_ok_iff rate).mpr isRate
    obtain ⟨number, denotes, lower, -⟩ := isRate
    obtain ⟨fee, product, -⟩ := productDown_spec nonneg denotes lower
    exact ⟨⟨rate, gross, fee, gross - fee⟩,
      by simp [calculate, not_lt.mpr nonneg, inForce, valid, product]⟩

/-- The fractions a reversal accepts. -/
def AcceptedFraction (fraction : String) (number : ℚ) : Prop :=
  ∃ frac, Decimal.parse? fraction = some frac ∧ Denotes frac number ∧ 0 < number ∧ number ≤ 1

/-- The range check of a reversal lets exactly the finite fractions above zero and up to one pass. -/
theorem reverse_ok {split : CommissionSplit} {fraction : String} {number : ℚ}
    (accepted : AcceptedFraction fraction number) (gross : 0 ≤ split.grossAmountCents)
    (fee : 0 ≤ split.platformFeeCents) :
    ∃ reversed, reverse split fraction = .ok reversed ∧ reversed.rate = split.rate ∧
      ProductSpec split.grossAmountCents number reversed.grossAmountCents ∧
      ProductSpec split.platformFeeCents number reversed.platformFeeCents ∧
      reversed.platformFeeCents + reversed.tenantSettlementCents = reversed.grossAmountCents := by
  -- The fraction passes the range check, and both products are of numbers that are not negative.
  obtain ⟨frac, parsed, denotes, positive, small⟩ := accepted
  obtain ⟨grossReversed, grossProduct, grossSpec⟩ := productDown_spec gross denotes positive.le
  obtain ⟨feeReversed, feeProduct, feeSpec⟩ := productDown_spec fee denotes positive.le
  refine ⟨⟨split.rate, grossReversed, feeReversed, grossReversed - feeReversed⟩, ?_, rfl, grossSpec,
    feeSpec, by simp⟩
  have inside : ¬(1 : ℚ) < number := not_lt.mpr small
  simp [reverse, fractionOutside, readDecimal, parsed, ofInt_decimalLt denotes, positive, inside,
    grossProduct, feeProduct]

/-- The amounts a reversal returns add up. -/
theorem reverse_balanced {split reversed : CommissionSplit} {fraction : String}
    (returned : reverse split fraction = .ok reversed) :
    reversed.platformFeeCents + reversed.tenantSettlementCents = reversed.grossAmountCents := by
  -- The settlement is the difference of the other two, whatever they are.
  obtain ⟨result, _, last⟩ := bind_eq_ok returned
  obtain ⟨outside, _, last⟩ := bind_eq_ok last
  cases outside with
  | true => cases last
  | false =>
    obtain ⟨gross, _, last⟩ := bind_eq_ok last
    obtain ⟨fee, _, last⟩ := bind_eq_ok last
    cases last
    simp

/-- A reversal that returned was given an accepted fraction. -/
theorem reverse_accepted {split reversed : CommissionSplit} {fraction : String}
    (returned : reverse split fraction = .ok reversed) :
    ∃ number, AcceptedFraction fraction number := by
  unfold reverse readDecimal fractionOutside at returned
  cases parsed : Decimal.parse? fraction with
  | none => simp [parsed] at returned
  | some frac =>
    rw [parsed] at returned
    cases frac with
    -- A NaN cannot be compared and an infinity is not below one.
    | nan negative signaling payload => cases returned
    | infinity negative => cases negative <;> cases returned
    | finite negative coefficient exponent =>
      have denotes : Denotes (.finite negative coefficient exponent)
        (Decimal.value negative coefficient exponent) := ⟨_, _, _, rfl, rfl⟩
      refine ⟨_, _, parsed, denotes, ?_⟩
      generalize Decimal.value negative coefficient exponent = number at denotes
      simp only [ok_bind, ofInt_decimalLt denotes] at returned
      by_cases positive : 0 < number
      · by_cases large : 1 < number
        · simp [positive, large] at returned
        · exact ⟨positive, not_lt.mp large⟩
      · simp [positive] at returned

end CommissionEngine

end JolCommerce
