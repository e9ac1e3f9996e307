import JolCommerce.Numeric.Significant
import Mathlib.Data.Nat.Cast.Field
import Mathlib.Data.Nat.Cast.Order.Field

/-! Quotients to a number of significant digits, and rounding half up to a given decimal place. -/

namespace Significant

/-- Drop zeros behind a coefficient, at most the given number of them. -/
def stripZeros : Nat → Nat → Int → Nat × Int
  | 0, coefficient, exponent => (coefficient, exponent)
  | places + 1, coefficient, exponent =>
    if coefficient % 10 = 0 then stripZeros places (coefficient / 10) (exponent + 1)
    else (coefficient, exponent)

/-- Dropped zeros move into the exponent. -/
theorem value_stripZeros (places coefficient : Nat) (exponent : Int) :
    value (stripZeros places coefficient exponent) = value (coefficient, exponent) := by
  induction places generalizing coefficient exponent with
  | zero => rfl
  | succ places ih =>
    simp only [stripZeros]
    split
    · rename_i zero
      -- One zero is a factor of ten.
      have whole : coefficient = coefficient / 10 * 10 ^ 1 := by omega
      have shift := value_shift (coefficient / 10) 1 exponent
      rw [← whole] at shift
      rw [ih, value, value]
      exact shift
    · rfl

/-- A quotient with more digits than the precision, so that rounding it rounds the exact one. -/
def quotient (precision : Nat) (left right : Nat × Int) : Nat × Int :=
  let ideal := left.2 - right.2
  if left.1 = 0 then (0, ideal)
  else
    -- Zeros are put behind the numerator, or the denominator, until the quotient is long enough.
    let shift : Int := digits right.1 - digits left.1 + precision + 1
    let numerator := left.1 * 10 ^ shift.toNat
    let denominator := right.1 * 10 ^ (-shift).toNat
    let whole := numerator / denominator
    if numerator % denominator ≠ 0 then
      -- A last digit other than zero and five keeps the rest from looking like a tie.
      (if whole % 5 = 0 then whole + 1 else whole, ideal - shift)
    else stripZeros shift.toNat whole (ideal - shift)

private theorem lt_pow_digits (coefficient : Nat) : coefficient < 10 ^ digits coefficient :=
  Nat.lt_pow_succ_log_self (by norm_num) coefficient

private theorem pow_digits_le {coefficient : Nat} (nonzero : coefficient ≠ 0) :
    10 ^ (digits coefficient - 1) ≤ coefficient := by
  -- The leading digit is not zero.
  rw [digits, Nat.add_sub_cancel]
  exact Nat.pow_log_le_self 10 nonzero

/-- The numerator is so much longer that the quotient has the digits asked for. -/
private theorem denominator_le {precision left right : Nat} (leftNonzero : left ≠ 0) :
    let shift : Int := digits right - digits left + precision + 1
    right * 10 ^ (-shift).toNat * 10 ^ precision ≤ left * 10 ^ shift.toNat := by
  intro shift
  -- Both sides are compared through the power of ten between them.
  have upper : right ≤ 10 ^ digits right := (lt_pow_digits right).le
  have lower := pow_digits_le leftNonzero
  have positive : 0 < digits left := Nat.succ_pos _
  have lengths : digits right + (-shift).toNat + precision = digits left - 1 + shift.toNat := by
    omega
  calc right * 10 ^ (-shift).toNat * 10 ^ precision
      ≤ 10 ^ digits right * 10 ^ (-shift).toNat * 10 ^ precision := by gcongr
    _ = 10 ^ (digits left - 1) * 10 ^ shift.toNat := by
        rw [← pow_add, ← pow_add, ← pow_add, lengths]
    _ ≤ left * 10 ^ shift.toNat := by gcongr

/-- Zeros behind numerator and denominator are taken back by the exponent. -/
private theorem value_div_eq (left right : Nat × Int) (shift : Int) :
    ((left.1 * 10 ^ shift.toNat : Nat) : ℚ) / (right.1 * 10 ^ (-shift).toNat : Nat) *
      10 ^ (left.2 - right.2 - shift) = value left / value right := by
  -- The two powers of ten differ by the shift.
  have ten : (10 : ℚ) ≠ 0 := by norm_num
  have power : (10 : ℚ) ^ shift.toNat = 10 ^ shift * 10 ^ (-shift).toNat := by
    rw [← zpow_natCast, ← zpow_natCast, ← zpow_add₀ ten]
    congr 1
    omega
  push_cast
  rw [power, zpow_sub₀ ten, zpow_sub₀ ten, value, value]
  field_simp

/-- A number next to an integer quotient is at most one away from the exact quotient. -/
private theorem abs_sub_div_le_one {numerator denominator kept : Nat} (positive : 0 < denominator)
    (below : numerator / denominator ≤ kept) (above : kept ≤ numerator / denominator + 1) :
    |(kept : ℚ) - numerator / denominator| ≤ 1 := by
  have positiveQ : (0 : ℚ) < denominator := by exact_mod_cast positive
  -- The exact quotient lies between the same two integers.
  have floor : ((numerator / denominator : Nat) : ℚ) ≤ numerator / denominator := Nat.cast_div_le
  have ceil : (numerator : ℚ) / denominator ≤ (numerator / denominator : Nat) + 1 := by
    have next : numerator ≤ (numerator / denominator + 1) * denominator := by
      rw [Nat.mul_comm]
      exact (Nat.lt_mul_div_succ numerator positive).le
    rw [div_le_iff₀ positiveQ]
    exact_mod_cast next
  have belowQ : ((numerator / denominator : Nat) : ℚ) ≤ kept := by exact_mod_cast below
  have aboveQ : (kept : ℚ) ≤ (numerator / denominator : Nat) + 1 := by exact_mod_cast above
  rw [abs_le]
  constructor <;> linarith

/-- A quotient is close to the exact one, relative to it. -/
theorem value_quotient_close (precision : Nat) (left : Nat × Int) {right : Nat × Int}
    (nonzero : right.1 ≠ 0) :
    |value (quotient precision left right) - value left / value right| ≤
      value left / value right / 10 ^ precision := by
  by_cases zero : left.1 = 0
  · simp [quotient, value, zero]
  · set shift : Int := digits right.1 - digits left.1 + precision + 1 with shiftDef
    set numerator := left.1 * 10 ^ shift.toNat with numeratorDef
    set denominator := right.1 * 10 ^ (-shift).toNat with denominatorDef
    have exact : (numerator : ℚ) / denominator * 10 ^ (left.2 - right.2 - shift) =
        value left / value right := value_div_eq left right shift
    have long : denominator * 10 ^ precision ≤ numerator := denominator_le zero
    have positive : 0 < denominator := by positivity
    have positiveQ : (0 : ℚ) < denominator := by exact_mod_cast positive
    have unit : (0 : ℚ) < 10 ^ (left.2 - right.2 - shift) := zpow_pos (by norm_num) _
    have nonneg : 0 ≤ value left / value right / 10 ^ precision :=
      div_nonneg (div_nonneg (value_nonneg _) (value_nonneg _)) (by positivity)
    by_cases divides : numerator % denominator = 0
    · -- Without a remainder the quotient is exact.
      have whole : (numerator : ℚ) / denominator = (numerator / denominator : Nat) :=
        (Nat.cast_div (Nat.dvd_of_mod_eq_zero divides) positiveQ.ne').symm
      have same : value (quotient precision left right) = value left / value right := by
        simp only [quotient, if_neg zero, ← shiftDef, ← numeratorDef, ← denominatorDef, divides,
          ne_eq, not_true_eq_false, if_false]
        rw [value_stripZeros, value, ← exact, whole]
      rw [same, sub_self, abs_zero]
      exact nonneg
    · -- Otherwise the coefficient and the exact quotient lie between the same two integers.
      obtain ⟨kept, form, below, above⟩ : ∃ kept : Nat,
          value (quotient precision left right) = kept * 10 ^ (left.2 - right.2 - shift) ∧
            numerator / denominator ≤ kept ∧ kept ≤ numerator / denominator + 1 := by
        refine ⟨if numerator / denominator % 5 = 0 then numerator / denominator + 1
          else numerator / denominator, ?_, ?_⟩
        · simp only [quotient, if_neg zero, ← shiftDef, ← numeratorDef, ← denominatorDef, divides,
            ne_eq, not_false_eq_true, if_true]
          rfl
        · split <;> omega
      have apart := abs_sub_div_le_one positive below above
      -- One unit is at most this share of a quotient that is long enough.
      have share : (1 : ℚ) ≤ numerator / denominator / 10 ^ precision := by
        rw [le_div_iff₀ (by positivity), le_div_iff₀ positiveQ, one_mul, mul_comm]
        exact_mod_cast long
      calc |value (quotient precision left right) - value left / value right|
          = |(kept : ℚ) - numerator / denominator| * 10 ^ (left.2 - right.2 - shift) := by
            rw [form, ← exact, ← sub_mul, abs_mul, abs_of_pos unit]
        _ ≤ numerator / denominator / 10 ^ precision * 10 ^ (left.2 - right.2 - shift) := by
            exact mul_le_mul_of_nonneg_right (apart.trans share) unit.le
        _ = value left / value right / 10 ^ precision := by
            rw [← exact]
            ring

/-- A quotient rounded to the precision stays within a unit of its last digit. -/
theorem value_round_quotient_close {precision : Nat} (positive : 0 < precision) (left : Nat × Int)
    {right : Nat × Int} (nonzero : right.1 ≠ 0) :
    |value (round precision (quotient precision left right).1 (quotient precision left right).2) -
        value left / value right| ≤ value left / value right / 10 ^ (precision - 1) := by
  -- The two errors add up, the first a tenth and the second a little over a half of the unit.
  have first := value_quotient_close precision left nonzero
  have second := value_round_close positive (quotient precision left right).1
    (quotient precision left right).2
  have exactNonneg : 0 ≤ value left / value right :=
    div_nonneg (value_nonneg _) (value_nonneg _)
  generalize value left / value right = exact at *
  generalize value (round precision (quotient precision left right).1
    (quotient precision left right).2) = rounded at *
  have same : value ((quotient precision left right).1, (quotient precision left right).2) =
    value (quotient precision left right) := rfl
  rw [same] at second
  generalize value (quotient precision left right) = long at *
  have power : (10 : ℚ) ^ precision = 10 ^ (precision - 1) * 10 := by
    rw [← pow_succ, Nat.sub_add_cancel positive]
  have large : (1 : ℚ) ≤ 10 ^ (precision - 1) := one_le_pow₀ (by norm_num)
  rw [power] at first
  generalize (10 : ℚ) ^ (precision - 1) = unit at *
  have unitPositive : 0 < unit := by linarith
  have tenth : exact / (unit * 10) = exact / unit / 10 := by field_simp
  have half : long / (2 * unit) = long / unit / 2 := by field_simp
  rw [tenth] at first
  rw [half] at second
  have shareNonneg : 0 ≤ exact / unit := div_nonneg exactNonneg unitPositive.le
  have shareLe : exact / unit ≤ exact := div_le_self exactNonneg large
  -- The longer quotient is at most a tenth above the exact one.
  have longLe : long / unit ≤ exact / unit + exact / unit / 10 := by
    have upper : long ≤ exact + exact / 10 := by
      have step := (abs_le.mp first).2
      linarith
    calc long / unit ≤ (exact + exact / 10) / unit := by gcongr
      _ = exact / unit + exact / unit / 10 := by ring
  calc |rounded - exact| ≤ |rounded - long| + |long - exact| := abs_sub_le _ _ _
    _ ≤ long / unit / 2 + exact / unit / 10 := add_le_add second first
    _ ≤ exact / unit := by linarith

/-- The coefficient of a number at a given decimal place, rounded half up. -/
def rescale (number : Nat × Int) (place : Int) : Nat :=
  if place ≤ number.2 then number.1 * 10 ^ (number.2 - place).toNat
  -- Half the unit is added before the digits behind the place are cut off.
  else
    let unit := 10 ^ (place - number.2).toNat
    (2 * number.1 + unit) / (2 * unit)

/-- A number below a power of ten has no more digits than its exponent. -/
theorem digits_le_of_lt {precision value : Nat} (positive : 0 < precision)
    (small : value < 10 ^ precision) : digits value ≤ precision := by
  -- Zero is written with one digit.
  by_cases zero : value = 0
  · simp [digits, zero]
    omega
  · exact Nat.log_lt_of_lt_pow zero small

/-- It counts the units of the place in the number, rounded half up. -/
theorem rescale_eq_floor (number : Nat × Int) (place : Int) :
    (rescale number place : ℤ) = ⌊value number / 10 ^ place + 1 / 2⌋ := by
  have ten : (10 : ℚ) ≠ 0 := by norm_num
  unfold rescale
  split
  · rename_i finer
    -- A number without digits behind the place is a whole number of units.
    have units : value number / 10 ^ place =
        ((number.1 * 10 ^ (number.2 - place).toNat : Nat) : ℚ) := by
      have power : (10 : ℚ) ^ (number.2 - place).toNat = 10 ^ number.2 / 10 ^ place := by
        rw [← zpow_natCast, ← zpow_sub₀ ten, Int.toNat_of_nonneg (by omega)]
      push_cast
      rw [power, value]
      ring
    rw [units, eq_comm, Int.floor_eq_iff]
    push_cast
    constructor <;> linarith
  · rename_i coarser
    -- The unit consists of as many units of the last digit as are cut off with it.
    set unit : Nat := 10 ^ (place - number.2).toNat with unitDef
    have unitPositive : (0 : ℚ) < unit := by positivity
    have power : (unit : ℚ) = 10 ^ place / 10 ^ number.2 := by
      rw [unitDef]
      push_cast
      rw [← zpow_natCast, ← zpow_sub₀ ten, Int.toNat_of_nonneg (by omega)]
    have units : value number / 10 ^ place + 1 / 2 =
        ((2 * number.1 + unit : Nat) : ℚ) / (2 * unit : Nat) := by
      have share : value number / 10 ^ place = number.1 / unit := by
        rw [power, value]
        field_simp
      rw [share]
      push_cast
      field_simp
    rw [units, ← Int.natCast_floor_eq_floor (by positivity), Nat.floor_div_eq_div]

end Significant
