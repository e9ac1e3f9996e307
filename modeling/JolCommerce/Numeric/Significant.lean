import Mathlib.Algebra.Order.Field.Power
import Mathlib.Algebra.Order.Field.Rat
import Mathlib.Algebra.Order.Floor.Semifield
import Mathlib.Data.Nat.Log
import Mathlib.Data.Rat.Floor
import Mathlib.Tactic.FieldSimp
import Mathlib.Tactic.Linarith
import Mathlib.Tactic.Positivity
import Mathlib.Tactic.Ring

/-! Rounding a natural number to a number of significant decimal digits, half to even. -/

namespace Significant

/-- The nearest natural number to a quotient, the even one of two. -/
def nearest (value divisor : Nat) : Nat :=
  if 2 * (value % divisor) < divisor ∨
      (2 * (value % divisor) = divisor ∧ value / divisor % 2 = 0) then value / divisor
  else value / divisor + 1

private theorem nearest_of_dvd {value divisor : Nat} (positive : 0 < divisor) (divides : divisor ∣ value) :
    nearest value divisor * divisor = value := by
  -- A quotient without remainder is not rounded.
  simp [nearest, Nat.mod_eq_zero_of_dvd divides, positive, Nat.div_mul_cancel divides]

/-- Rounding moves a value by at most half the divisor, in either direction. -/
theorem nearest_bounds (value : Nat) {divisor : Nat} (positive : 0 < divisor) :
    2 * (nearest value divisor * divisor) ≤ 2 * value + divisor ∧
      2 * value ≤ 2 * (nearest value divisor * divisor) + divisor := by
  -- The remainder decides the direction, and it is below the divisor.
  have split := Nat.div_add_mod value divisor
  have small := Nat.mod_lt value positive
  have expand : (value / divisor + 1) * divisor = divisor * (value / divisor) + divisor := by
    ring
  have turned : value / divisor * divisor = divisor * (value / divisor) := Nat.mul_comm _ _
  unfold nearest
  split
  · rw [turned]
    omega
  · rw [expand]
    omega

/-- Number of decimal digits; zero has one. -/
def digits (value : Nat) : Nat := Nat.log 10 value + 1

/-- A coefficient and an exponent rounded to at most the given number of digits. -/
def round (precision coefficient : Nat) (exponent : Int) : Nat × Int :=
  if digits coefficient ≤ precision then (coefficient, exponent)
  else
    let dropped := digits coefficient - precision
    let rounded := nearest coefficient (10 ^ dropped)
    -- A carry out of the leading digit leaves a power of ten, one digit too long.
    if rounded = 10 ^ precision then (10 ^ (precision - 1), exponent + dropped + 1)
    else (rounded, exponent + dropped)

/-- The number a coefficient and an exponent denote. -/
def value (number : Nat × Int) : ℚ := number.1 * 10 ^ number.2

/-- Values are not negative. -/
theorem value_nonneg (number : Nat × Int) : 0 ≤ value number := by
  unfold value
  positivity

private theorem pow_le_of_digits {precision coefficient : Nat} (positive : 0 < precision)
    (long : ¬digits coefficient ≤ precision) :
    10 ^ (precision - 1) * 10 ^ (digits coefficient - precision) ≤ coefficient := by
  -- A coefficient with too many digits for the precision is at least a power of ten.
  have nonzero : coefficient ≠ 0 := by
    rintro rfl
    simp [digits] at long
    omega
  have power : precision - 1 + (digits coefficient - precision) = Nat.log 10 coefficient := by
    unfold digits at long ⊢
    omega
  rw [← pow_add, power]
  exact Nat.pow_log_le_self 10 nonzero

/-- A rounded number denotes the nearest multiple of the last digit's unit. -/
theorem value_round {precision coefficient : Nat} (positive : 0 < precision) (exponent : Int)
    (long : ¬digits coefficient ≤ precision) :
    value (round precision coefficient exponent) =
      (nearest coefficient (10 ^ (digits coefficient - precision)) : ℚ) *
        10 ^ (exponent + (digits coefficient - precision : Nat)) := by
  simp only [round, if_neg long]
  split
  · rename_i carry
    -- The two forms of a carry denote the same power of ten.
    have ten : (10 : ℚ) ≠ 0 := by norm_num
    rw [carry, value]
    push_cast
    rw [zpow_add_one₀ ten]
    have shift : (10 : ℚ) ^ precision = 10 ^ (precision - 1) * 10 := by
      rw [← pow_succ, Nat.sub_add_cancel positive]
    rw [shift]
    ring
  · rfl

/-- Moving decimal places from the exponent into the coefficient. -/
theorem value_shift (coefficient places : Nat) (exponent : Int) :
    (coefficient : ℚ) * 10 ^ (exponent + (places : Nat)) =
      (coefficient * 10 ^ places : Nat) * 10 ^ exponent := by
  rw [zpow_add₀ (by norm_num), zpow_natCast]
  push_cast
  ring

/-- Rounding to a precision changes a value by at most half a unit of its last digit. -/
theorem value_round_close {precision : Nat} (positive : 0 < precision) (coefficient : Nat)
    (exponent : Int) :
    |value (round precision coefficient exponent) - value (coefficient, exponent)| ≤
      value (coefficient, exponent) / (2 * 10 ^ (precision - 1)) := by
  by_cases short : digits coefficient ≤ precision
  · have bound : 0 ≤ value (coefficient, exponent) / (2 * 10 ^ (precision - 1)) :=
      div_nonneg (value_nonneg _) (by positivity)
    simpa [round, short] using bound
  · rw [value_round positive exponent short, value_shift]
    -- The unit dropped is at most the coefficient over the leading power of ten.
    set unit : Nat := 10 ^ (digits coefficient - precision) with unitDef
    have unitPositive : 0 < unit := by positivity
    obtain ⟨upper, lower⟩ := nearest_bounds coefficient unitPositive
    have leading : 10 ^ (precision - 1) * unit ≤ coefficient := pow_le_of_digits positive short
    have upperQ : 2 * ((nearest coefficient unit * unit : Nat) : ℚ) ≤ 2 * coefficient + unit := by
      exact_mod_cast upper
    have lowerQ : 2 * (coefficient : ℚ) ≤ 2 * ((nearest coefficient unit * unit : Nat) : ℚ) + unit := by
      exact_mod_cast lower
    have leadingQ : (10 : ℚ) ^ (precision - 1) * unit ≤ coefficient := by exact_mod_cast leading
    -- Half a unit is at most this share of the coefficient.
    have half : (unit : ℚ) / 2 ≤ coefficient / (2 * 10 ^ (precision - 1)) := by
      rw [div_le_div_iff₀ (by norm_num) (by positivity)]
      linarith
    have close : |((nearest coefficient unit * unit : Nat) : ℚ) - coefficient| ≤
        coefficient / (2 * 10 ^ (precision - 1)) := by
      rw [abs_le]
      constructor <;> linarith
    have ten : (0 : ℚ) < 10 := by norm_num
    calc |((nearest coefficient unit * unit : Nat) : ℚ) * 10 ^ exponent -
          value (coefficient, exponent)|
        = |((nearest coefficient unit * unit : Nat) : ℚ) - coefficient| * 10 ^ exponent := by
          rw [value, ← sub_mul, abs_mul, abs_of_pos (zpow_pos ten exponent)]
      _ ≤ coefficient / (2 * 10 ^ (precision - 1)) * 10 ^ exponent := by
          exact mul_le_mul_of_nonneg_right close (by positivity)
      _ = value (coefficient, exponent) / (2 * 10 ^ (precision - 1)) := by
          rw [value]
          ring

private theorem coefficient_eq_of_value {coefficient small : Nat} {exponent scale : Int}
    (order : exponent ≤ scale) (same : value (coefficient, exponent) = value (small, scale)) :
    coefficient = small * 10 ^ (scale - exponent).toNat := by
  -- Two forms of one number, the second with the larger exponent.
  have split : scale = exponent + ((scale - exponent).toNat : Nat) := by omega
  have shifted : (coefficient : ℚ) * 10 ^ exponent =
      (small * 10 ^ (scale - exponent).toNat : Nat) * 10 ^ exponent := by
    rw [← value_shift, ← split]
    exact same
  have cancelled := mul_right_cancel₀ (zpow_ne_zero exponent (by norm_num : (10 : ℚ) ≠ 0)) shifted
  exact_mod_cast cancelled

/-- A number that has few enough digits in some form is not changed. -/
theorem value_round_exact {precision coefficient : Nat} (positive : 0 < precision)
    {exponent : Int} {small : Nat} {scale : Int} (fits : small < 10 ^ precision)
    (same : value (coefficient, exponent) = value (small, scale)) :
    value (round precision coefficient exponent) = value (coefficient, exponent) := by
  by_cases short : digits coefficient ≤ precision
  · simp [round, short]
  · have leading := pow_le_of_digits positive short
    -- A long coefficient is the short one followed by zeros, at least as many as are dropped.
    have order : exponent ≤ scale := by
      by_contra above
      have padded := coefficient_eq_of_value (by omega : scale ≤ exponent) same.symm
      have bound : coefficient ≤ small := by
        rw [padded]
        exact Nat.le_mul_of_pos_right _ (by positivity)
      have dropped : 10 ^ 1 ≤ 10 ^ (digits coefficient - precision) :=
        Nat.pow_le_pow_right (by norm_num) (by omega)
      have whole : 10 ^ precision = 10 ^ (precision - 1) * 10 ^ 1 := by
        rw [← pow_add, Nat.sub_add_cancel positive]
      have large : 10 ^ precision ≤ 10 ^ (precision - 1) * 10 ^ (digits coefficient - precision) := by
        rw [whole]
        exact Nat.mul_le_mul_left _ dropped
      omega
    have padded := coefficient_eq_of_value order same
    -- With fewer zeros the short coefficient would be as long as the precision.
    have zeros : digits coefficient - precision ≤ (scale - exponent).toNat := by
      by_contra few
      have bound : coefficient < 10 ^ precision * 10 ^ (scale - exponent).toNat := by
        rw [padded]
        exact Nat.mul_lt_mul_of_pos_right fits (by positivity)
      have power : 10 ^ precision * 10 ^ (scale - exponent).toNat ≤
          10 ^ (precision - 1) * 10 ^ (digits coefficient - precision) := by
        rw [← pow_add, ← pow_add]
        exact Nat.pow_le_pow_right (by norm_num) (by omega)
      omega
    have divides : 10 ^ (digits coefficient - precision) ∣ coefficient := by
      rw [padded]
      exact Dvd.dvd.mul_left (pow_dvd_pow 10 (padded ▸ zeros)) small
    rw [value_round positive exponent short, value_shift, nearest_of_dvd (by positivity) divides,
      value]

/-- The integer part of a number. -/
def whole (number : Nat × Int) : Nat :=
  if 0 ≤ number.2 then number.1 * 10 ^ number.2.toNat else number.1 / 10 ^ (-number.2).toNat

/-- The integer part is the largest integer that is not above the number. -/
theorem whole_eq_floor (number : Nat × Int) : whole number = ⌊value number⌋₊ := by
  rcases number with ⟨coefficient, exponent⟩
  simp only [whole, value]
  split
  · rename_i nonneg
    -- A number without decimal places is its own integer part.
    have power : (10 : ℚ) ^ exponent = ((10 ^ exponent.toNat : Nat) : ℚ) := by
      conv_lhs => rw [← Int.toNat_of_nonneg nonneg, zpow_natCast]
      push_cast
      rfl
    rw [power, ← Nat.cast_mul, Nat.floor_natCast]
  · rename_i negative
    -- With decimal places the coefficient is divided by a power of ten.
    have power : (10 : ℚ) ^ exponent = ((10 ^ (-exponent).toNat : Nat) : ℚ)⁻¹ := by
      have places : exponent = -((-exponent).toNat : Int) := by omega
      conv_lhs => rw [places, zpow_neg, zpow_natCast]
      push_cast
      rfl
    rw [power, ← div_eq_mul_inv, Nat.floor_div_eq_div]

end Significant
