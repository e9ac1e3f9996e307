import JolCommerce.Numeric.Quotient
import JolCommerce.Python.DecimalLaws

/-! Sums, differences, quotients and quantized values of decimal numbers, and what they denote. -/

namespace Python

/-- What a division raises under the traps of the default context. -/
inductive DivisionError where
  | invalidOperation
  | divisionByZero
  deriving DecidableEq

namespace Decimal

/-- `left + right`, rounded to the precision of the context. -/
def add : Decimal → Decimal → Except DecimalError Decimal
  | .nan _ true _, _ | _, .nan _ true _ => .error .invalidOperation
  -- The first NaN is the result, its diagnostic digits cut to the precision.
  | .nan negative false payload, _ => .ok (.nan negative false (payload % 10 ^ 28))
  | _, .nan negative false payload => .ok (.nan negative false (payload % 10 ^ 28))
  | .infinity left, .infinity right =>
    -- Infinities of different signs have no sum.
    if left = right then .ok (.infinity left) else .error .invalidOperation
  | .infinity negative, .finite .. | .finite .., .infinity negative => .ok (.infinity negative)
  | .finite leftNegative leftCoefficient leftExponent,
    .finite rightNegative rightCoefficient rightExponent =>
    let unit := min leftExponent rightExponent
    let sum := aligned leftNegative leftCoefficient leftExponent unit +
      aligned rightNegative rightCoefficient rightExponent unit
    let rounded := Significant.round 28 sum.natAbs unit
    -- A sum of zero is negative only if both numbers carry the sign.
    let negative := if sum = 0 then leftNegative && rightNegative else sum < 0
    .ok (.finite negative rounded.1 rounded.2)

/-- `decimal.copy_negate()`. -/
def negate : Decimal → Decimal
  | .finite negative coefficient exponent => .finite (!negative) coefficient exponent
  | .infinity negative => .infinity !negative
  | .nan negative signaling payload => .nan (!negative) signaling payload

/-- `left - right`; the sign of a NaN is kept. -/
def sub : Decimal → Decimal → Except DecimalError Decimal
  | left, .nan negative signaling payload => left.add (.nan negative signaling payload)
  | left, right => left.add right.negate

/-- `left / right`, rounded to the precision of the context. -/
def div : Decimal → Decimal → Except DivisionError Decimal
  | .nan _ true _, _ | _, .nan _ true _ => .error .invalidOperation
  | .nan negative false payload, _ => .ok (.nan negative false (payload % 10 ^ 28))
  | _, .nan negative false payload => .ok (.nan negative false (payload % 10 ^ 28))
  | .infinity _, .infinity _ => .error .invalidOperation
  | .infinity left, .finite right .. => .ok (.infinity (left ^^ right))
  -- The smallest exponent of the context: nothing is as close to zero.
  | .finite left .., .infinity right => .ok (.finite (left ^^ right) 0 (-1000026))
  | .finite leftNegative leftCoefficient leftExponent,
    .finite rightNegative rightCoefficient rightExponent =>
    if rightCoefficient = 0 then
      -- Zero by zero is undefined rather than infinite.
      if leftCoefficient = 0 then .error .invalidOperation else .error .divisionByZero
    else
      let quotient := Significant.quotient 28 (leftCoefficient, leftExponent)
        (rightCoefficient, rightExponent)
      let rounded := Significant.round 28 quotient.1 quotient.2
      .ok (.finite (leftNegative ^^ rightNegative) rounded.1 rounded.2)

/-- `number.quantize(pattern, rounding=ROUND_HALF_UP)`. -/
def quantizeHalfUp : Decimal → Decimal → Except DecimalError Decimal
  | .nan _ true _, _ | _, .nan _ true _ => .error .invalidOperation
  | .nan negative false payload, _ => .ok (.nan negative false (payload % 10 ^ 28))
  | _, .nan negative false payload => .ok (.nan negative false (payload % 10 ^ 28))
  | .infinity negative, .infinity _ => .ok (.infinity negative)
  | .infinity _, .finite .. | .finite .., .infinity _ => .error .invalidOperation
  | .finite negative coefficient exponent, .finite _ _ place =>
    -- The magnitude is rounded, so that a tie goes away from zero.
    let rescaled := Significant.rescale (coefficient, exponent) place
    -- A result that the precision cannot hold is refused rather than rounded again.
    if Significant.digits rescaled ≤ 28 then .ok (.finite negative rescaled place)
    else .error .invalidOperation

/-- The magnitude of a finite number does not depend on its sign. -/
theorem abs_value (negative : Bool) (coefficient : Nat) (exponent : Int) :
    |value negative coefficient exponent| = Significant.value (coefficient, exponent) := by
  have nonneg := Significant.value_nonneg (coefficient, exponent)
  cases negative with
  | false => exact abs_of_nonneg nonneg
  | true => exact (abs_neg _).trans (abs_of_nonneg nonneg)

/-- A number that the digits of the context can hold. -/
def Fits (number : ℚ) : Prop :=
  ∃ (small : Nat) (scale : Int), small < 10 ^ 28 ∧ |number| = Significant.value (small, scale)

private theorem value_round_of_fits {number : ℚ} (fits : Fits number) {coefficient : Nat}
    {exponent : Int} (magnitude : Significant.value (coefficient, exponent) = |number|) :
    Significant.value (Significant.round 28 coefficient exponent) = |number| := by
  -- Nothing is lost where the digits suffice in some form.
  obtain ⟨small, scale, digits, same⟩ := fits
  rw [Significant.value_round_exact (by norm_num) digits (magnitude.trans same), magnitude]

/-- A sum that fits is exact. -/
theorem add_finite {leftNegative rightNegative : Bool} {leftCoefficient rightCoefficient : Nat}
    {leftExponent rightExponent : Int}
    (fits : Fits (value leftNegative leftCoefficient leftExponent +
      value rightNegative rightCoefficient rightExponent)) :
    ∃ negative coefficient exponent,
      add (.finite leftNegative leftCoefficient leftExponent)
          (.finite rightNegative rightCoefficient rightExponent) =
        .ok (.finite negative coefficient exponent) ∧
      value negative coefficient exponent = value leftNegative leftCoefficient leftExponent +
        value rightNegative rightCoefficient rightExponent := by
  refine ⟨_, _, _, rfl, ?_⟩
  -- Both numbers are whole multiples of the common unit, and so is their sum.
  have left := aligned_value (min_le_left leftExponent rightExponent) leftNegative leftCoefficient
  have right := aligned_value (min_le_right leftExponent rightExponent) rightNegative
    rightCoefficient
  rw [← left, ← right, ← add_mul] at fits ⊢
  generalize aligned leftNegative leftCoefficient leftExponent (min leftExponent rightExponent) =
    leftUnits at *
  generalize aligned rightNegative rightCoefficient rightExponent
    (min leftExponent rightExponent) = rightUnits at *
  generalize min leftExponent rightExponent = unit at *
  have unitPositive : (0 : ℚ) < 10 ^ unit := zpow_pos (by norm_num) _
  have whole : ((leftUnits : ℚ) + rightUnits) = ((leftUnits + rightUnits : ℤ) : ℚ) := by push_cast; rfl
  rw [whole] at fits ⊢
  have magnitude : Significant.value ((leftUnits + rightUnits).natAbs, unit) =
      |((leftUnits + rightUnits : ℤ) : ℚ) * 10 ^ unit| := by
    rw [abs_mul, abs_of_pos unitPositive, Significant.value, Nat.cast_natAbs, Int.cast_abs]
  have rounded := value_round_of_fits fits magnitude
  generalize leftUnits + rightUnits = sum at *
  unfold value
  rw [rounded]
  rcases lt_trichotomy sum 0 with below | zero | above
  · have negative : ((sum : ℚ)) * 10 ^ unit < 0 :=
      mul_neg_of_neg_of_pos (by exact_mod_cast below) unitPositive
    simp [below, below.ne, abs_of_neg negative]
  · simp [zero]
  · have positive : 0 < ((sum : ℚ)) * 10 ^ unit :=
      mul_pos (by exact_mod_cast above) unitPositive
    simp [not_lt.mpr above.le, above.ne', abs_of_pos positive]

/-- The opposite number. -/
theorem value_negate (negative : Bool) (coefficient : Nat) (exponent : Int) :
    value (!negative) coefficient exponent = -value negative coefficient exponent := by
  cases negative <;> simp [value]

/-- A difference that fits is exact. -/
theorem sub_finite {leftNegative rightNegative : Bool} {leftCoefficient rightCoefficient : Nat}
    {leftExponent rightExponent : Int}
    (fits : Fits (value leftNegative leftCoefficient leftExponent -
      value rightNegative rightCoefficient rightExponent)) :
    ∃ negative coefficient exponent,
      sub (.finite leftNegative leftCoefficient leftExponent)
          (.finite rightNegative rightCoefficient rightExponent) =
        .ok (.finite negative coefficient exponent) ∧
      value negative coefficient exponent = value leftNegative leftCoefficient leftExponent -
        value rightNegative rightCoefficient rightExponent := by
  -- The opposite number is added.
  rw [sub_eq_add_neg, ← value_negate] at fits ⊢
  exact add_finite fits

/-- A product that fits is exact. -/
theorem mul_finite {leftNegative rightNegative : Bool} {leftCoefficient rightCoefficient : Nat}
    {leftExponent rightExponent : Int}
    (fits : Fits (value leftNegative leftCoefficient leftExponent *
      value rightNegative rightCoefficient rightExponent)) :
    ∃ negative coefficient exponent,
      mul (.finite leftNegative leftCoefficient leftExponent)
          (.finite rightNegative rightCoefficient rightExponent) =
        .ok (.finite negative coefficient exponent) ∧
      value negative coefficient exponent = value leftNegative leftCoefficient leftExponent *
        value rightNegative rightCoefficient rightExponent := by
  refine ⟨_, _, _, rfl, ?_⟩
  -- The coefficients are multiplied and the exponents added.
  have product : Significant.value (leftCoefficient * rightCoefficient,
      leftExponent + rightExponent) = Significant.value (leftCoefficient, leftExponent) *
        Significant.value (rightCoefficient, rightExponent) := by
    simp only [Significant.value, zpow_add₀ (by norm_num : (10 : ℚ) ≠ 0)]
    push_cast
    ring
  have magnitude : Significant.value (leftCoefficient * rightCoefficient,
      leftExponent + rightExponent) = |value leftNegative leftCoefficient leftExponent *
        value rightNegative rightCoefficient rightExponent| := by
    rw [abs_mul, abs_value, abs_value, product]
  have rounded := value_round_of_fits fits magnitude
  rw [← magnitude, product] at rounded
  unfold value
  rw [rounded]
  -- The signs decide the sign of the product.
  cases leftNegative <;> cases rightNegative <;> simp

/-- A quotient is within a unit of its twenty-eighth digit of the exact one. -/
theorem div_finite {leftNegative rightNegative : Bool} {leftCoefficient rightCoefficient : Nat}
    {leftExponent rightExponent : Int}
    (nonzero : value rightNegative rightCoefficient rightExponent ≠ 0) :
    ∃ negative coefficient exponent,
      div (.finite leftNegative leftCoefficient leftExponent)
          (.finite rightNegative rightCoefficient rightExponent) =
        .ok (.finite negative coefficient exponent) ∧
      |value negative coefficient exponent - value leftNegative leftCoefficient leftExponent /
          value rightNegative rightCoefficient rightExponent| ≤
        |value leftNegative leftCoefficient leftExponent /
          value rightNegative rightCoefficient rightExponent| / 10 ^ 27 := by
  have coefficient : rightCoefficient ≠ 0 := by
    rintro rfl
    simp [value, Significant.value] at nonzero
  refine ⟨_, _, _, by simp only [div, if_neg coefficient]; rfl, ?_⟩
  -- The magnitudes are divided, and the signs are the same on both sides.
  have close := Significant.value_round_quotient_close (by norm_num : 0 < 28)
    (leftCoefficient, leftExponent) (show (rightCoefficient, rightExponent).1 ≠ 0 from coefficient)
  rw [abs_div, abs_value, abs_value]
  unfold value
  cases leftNegative <;> cases rightNegative <;>
    simpa [neg_div, div_neg, neg_add_eq_sub, abs_sub_comm] using close

/-- A number that is not negative is quantized to the nearest unit of the place, a tie upwards. -/
theorem quantizeHalfUp_finite {negative patternNegative : Bool} {coefficient pattern : Nat}
    {exponent place : Int} (nonneg : 0 ≤ value negative coefficient exponent)
    (fits : round (value negative coefficient exponent / 10 ^ place) < 10 ^ 28) :
    ∃ sign units, quantizeHalfUp (.finite negative coefficient exponent)
        (.finite patternNegative pattern place) = .ok (.finite sign units place) ∧
      value sign units place = round (value negative coefficient exponent / 10 ^ place) * 10 ^ place := by
  have magnitude : value negative coefficient exponent = Significant.value (coefficient, exponent) := by
    rw [← abs_value negative, abs_of_nonneg nonneg]
  have rescaled := Significant.rescale_eq_floor (coefficient, exponent) place
  rw [← round_eq, ← magnitude] at rescaled
  have short : Significant.digits (Significant.rescale (coefficient, exponent) place) ≤ 28 :=
    Significant.digits_le_of_lt (by norm_num) (by exact_mod_cast rescaled ▸ fits)
  refine ⟨negative, _, by simp only [quantizeHalfUp, if_pos short]; rfl, ?_⟩
  rw [← rescaled]
  cases negative with
  | false => simp [value, Significant.value]
  | true =>
    -- A number with the sign that is not negative is zero, and stays zero.
    have zero : value true coefficient exponent = 0 :=
      le_antisymm (neg_nonpos.mpr (Significant.value_nonneg _)) nonneg
    rw [zero, zero_div, round_zero] at rescaled
    have none : Significant.rescale (coefficient, exponent) place = 0 := by exact_mod_cast rescaled
    simp [none, value, Significant.value]

end Decimal

end Python
