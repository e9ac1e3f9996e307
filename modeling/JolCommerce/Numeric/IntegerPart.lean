import JolCommerce.Numeric.Significant

/-! Rounding to significant digits and dropping the decimals afterwards: when the integer part stays. -/

namespace Significant

/-- A rounded coefficient has at most as many digits as the precision. -/
theorem round_fst_lt {precision : Nat} (positive : 0 < precision) (coefficient : Nat)
    (exponent : Int) : (round precision coefficient exponent).1 < 10 ^ precision := by
  unfold round
  split
  · rename_i short
    exact Nat.lt_pow_of_log_lt (by norm_num) short
  · rename_i long
    simp only
    split
    · exact Nat.pow_lt_pow_right (by norm_num) (by omega)
    · rename_i noCarry
      refine lt_of_le_of_ne ?_ noCarry
      -- Without the dropped digits the coefficient is below the power, and rounding adds one at most.
      have whole : coefficient < 10 ^ precision * 10 ^ (digits coefficient - precision) := by
        rw [← pow_add]
        apply Nat.lt_pow_of_log_lt (by norm_num)
        unfold digits at long ⊢
        omega
      have quotient : coefficient / 10 ^ (digits coefficient - precision) < 10 ^ precision :=
        Nat.div_lt_of_lt_mul (by rwa [Nat.mul_comm] at whole)
      unfold nearest
      split <;> omega

/-- So has its integer part, but for zeros behind the digits. -/
theorem whole_round_fits {precision : Nat} (positive : 0 < precision) (coefficient : Nat)
    (exponent : Int) : ∃ (small : Nat) (scale : Int), small < 10 ^ precision ∧
      (whole (round precision coefficient exponent) : ℚ) = value (small, scale) := by
  -- A number with few digits keeps them when its decimals are dropped.
  have fits := round_fst_lt positive coefficient exponent
  generalize round precision coefficient exponent = rounded at fits
  rcases rounded with ⟨kept, scale⟩
  unfold whole
  split
  · rename_i nonneg
    refine ⟨kept, scale, fits, ?_⟩
    have power : (10 : ℚ) ^ scale = 10 ^ scale.toNat := by
      rw [← zpow_natCast, Int.toNat_of_nonneg nonneg]
    rw [value, power]
    push_cast
    rfl
  · refine ⟨kept / 10 ^ (-scale).toNat, 0, lt_of_le_of_lt (Nat.div_le_self _ _) fits, ?_⟩
    simp [value]

/-- Decimals are dropped from a number that has some by a division. -/
theorem whole_of_nonpos (coefficient : Nat) {exponent : Int} (nonpos : exponent ≤ 0) :
    whole (coefficient, exponent) = coefficient / 10 ^ (-exponent).toNat := by
  -- At the exponent zero both forms divide by one.
  unfold whole
  split
  · rename_i nonneg
    have zero : exponent = 0 := le_antisymm nonpos nonneg
    simp [zero]
  · rfl

/-- The two ways a quotient is rounded. -/
theorem nearest_cases (value divisor : Nat) :
    (nearest value divisor = value / divisor ∧
      (2 * (value % divisor) < divisor ∨
        2 * (value % divisor) = divisor ∧ value / divisor % 2 = 0)) ∨
    (nearest value divisor = value / divisor + 1 ∧
      (divisor < 2 * (value % divisor) ∨
        2 * (value % divisor) = divisor ∧ value / divisor % 2 = 1)) := by
  -- Rounding down was not chosen, so the remainder is above a half, or a half with an odd
  -- quotient.
  unfold nearest
  split
  · rename_i down
    exact Or.inl ⟨rfl, down⟩
  · refine Or.inr ⟨rfl, ?_⟩
    omega

/--
The digits that a precision drops can be dropped without changing the integer part.

Where they reach before the point, the integer part has to end in zeros there. Where they are all
decimals, the number has to stay more than half a unit of the last digit kept below the next
integer; half a unit exactly will do when that digit is the one before the point, and even.
-/
def KeepsWhole (precision coefficient : Nat) (exponent : Int) : Prop :=
  let dropped := digits coefficient - precision
  let places := (-exponent).toNat
  let gap := 10 ^ places - coefficient % 10 ^ places
  digits coefficient ≤ precision ∨
    if 0 < exponent + dropped then 10 ^ (exponent + dropped).toNat ∣ whole (coefficient, exponent)
    else 10 ^ dropped < 2 * gap ∨
      (10 ^ dropped = 2 * gap ∧ places = dropped ∧ coefficient / 10 ^ places % 2 = 0)

instance (precision coefficient : Nat) (exponent : Int) :
    Decidable (KeepsWhole precision coefficient exponent) := by
  unfold KeepsWhole
  infer_instance

private theorem whole_round {precision coefficient : Nat} (positive : 0 < precision) (exponent : Int)
    (long : ¬digits coefficient ≤ precision) :
    whole (round precision coefficient exponent) =
      whole (nearest coefficient (10 ^ (digits coefficient - precision)),
        exponent + (digits coefficient - precision : Nat)) := by
  -- Both denote the same number, whatever form a carry takes.
  rw [whole_eq_floor, whole_eq_floor, value_round positive exponent long]
  rfl

/-- Dropped digits before the point. -/
private theorem nearest_mul_eq_whole_iff {coefficient dropped : Nat} {exponent : Int}
    (before : 0 < exponent + dropped) :
    nearest coefficient (10 ^ dropped) * 10 ^ (exponent + dropped).toNat =
        whole (coefficient, exponent) ↔
      10 ^ (exponent + dropped).toNat ∣ whole (coefficient, exponent) := by
  -- The integer part has the quotient in front of the dropped digits, and those digits behind it.
  have unitPositive : 0 < 10 ^ (exponent + dropped).toNat := by positivity
  have parts : whole (coefficient, exponent) / 10 ^ (exponent + dropped).toNat =
      coefficient / 10 ^ dropped ∧ (whole (coefficient, exponent) % 10 ^ (exponent + dropped).toNat = 0 →
        2 * (coefficient % 10 ^ dropped) < 10 ^ dropped) := by
    unfold whole
    by_cases nonneg : 0 ≤ exponent
    · have split : 10 ^ (exponent + dropped).toNat = 10 ^ dropped * 10 ^ exponent.toNat := by
        rw [← pow_add]
        congr 1
        omega
      rw [if_pos nonneg, split, Nat.mul_div_mul_right _ _ (by positivity), Nat.mul_mod_mul_right]
      refine ⟨rfl, fun zero => ?_⟩
      have none : coefficient % 10 ^ dropped = 0 := by
        rcases Nat.mul_eq_zero.mp zero with none | power
        · exact none
        · exact absurd power (by positivity)
      rw [none]
      positivity
    · have split : 10 ^ dropped = 10 ^ (-exponent).toNat * 10 ^ (exponent + dropped).toNat := by
        rw [← pow_add]
        congr 1
        omega
      rw [if_neg nonneg]
      refine ⟨by rw [Nat.div_div_eq_div_mul, split], fun zero => ?_⟩
      have rest : coefficient % 10 ^ dropped = coefficient % 10 ^ (-exponent).toNat := by
        rw [split, Nat.mod_mul, zero, Nat.mul_zero, Nat.add_zero]
      have small : coefficient % 10 ^ (-exponent).toNat < 10 ^ (-exponent).toNat :=
        Nat.mod_lt _ (by positivity)
      have ten : 10 ≤ 10 ^ (exponent + dropped).toNat := by
        calc 10 = 10 ^ 1 := by norm_num
          _ ≤ 10 ^ (exponent + dropped).toNat := Nat.pow_le_pow_right (by norm_num) (by omega)
      have large : 10 ^ (-exponent).toNat * 10 ≤ 10 ^ dropped := by
        rw [split]
        exact Nat.mul_le_mul_left _ ten
      omega
  obtain ⟨quotient, down⟩ := parts
  constructor
  · exact fun same => Dvd.intro_left _ same
  · intro divides
    have rounded : nearest coefficient (10 ^ dropped) = coefficient / 10 ^ dropped := by
      have below := down (Nat.mod_eq_zero_of_dvd divides)
      exact if_pos (Or.inl below)
    rw [rounded, ← quotient, Nat.div_mul_cancel divides]

private theorem div_succ_eq_iff (value : Nat) {divisor : Nat} (positive : 0 < divisor) :
    (value + 1) / divisor = value / divisor ↔ value % divisor + 1 ≠ divisor := by
  -- The quotient grows exactly at a multiple, which is one past the largest remainder.
  have split := Nat.div_add_mod value divisor
  have small := Nat.mod_lt value positive
  have multiple : divisor ∣ value + 1 ↔ value % divisor + 1 = divisor := by
    have whole : value + 1 = divisor * (value / divisor) + (value % divisor + 1) := by omega
    rw [whole, Nat.dvd_add_right (Dvd.intro _ rfl)]
    constructor
    · intro divides
      have large := Nat.le_of_dvd (by omega) divides
      omega
    · intro same
      rw [same]
  rw [Nat.succ_div]
  by_cases reached : divisor ∣ value + 1
  · simp [reached, multiple.mp reached]
  · simp [reached, mt multiple.mpr reached]

/-- Dropped digits behind the point. -/
private theorem nearest_div_eq_div_iff (coefficient dropped kept : Nat) :
    nearest coefficient (10 ^ dropped) / 10 ^ kept = coefficient / 10 ^ (dropped + kept) ↔
      10 ^ dropped < 2 * (10 ^ (dropped + kept) - coefficient % 10 ^ (dropped + kept)) ∨
        (10 ^ dropped = 2 * (10 ^ (dropped + kept) - coefficient % 10 ^ (dropped + kept)) ∧
          kept = 0 ∧ coefficient / 10 ^ dropped % 2 = 0) := by
  -- The gap consists of the decimals kept and of those dropped.
  have small : coefficient % 10 ^ dropped < 10 ^ dropped := Nat.mod_lt _ (by positivity)
  have keptSmall : coefficient / 10 ^ dropped % 10 ^ kept < 10 ^ kept := Nat.mod_lt _ (by positivity)
  have decimals : coefficient % 10 ^ (dropped + kept) = coefficient % 10 ^ dropped +
      10 ^ dropped * (coefficient / 10 ^ dropped % 10 ^ kept) := by
    rw [pow_add, Nat.mod_mul]
  have gap : 10 ^ (dropped + kept) - coefficient % 10 ^ (dropped + kept) =
      10 ^ dropped * (10 ^ kept - coefficient / 10 ^ dropped % 10 ^ kept) -
        coefficient % 10 ^ dropped := by
    rw [decimals, pow_add, Nat.mul_sub]
    omega
  have quotient : coefficient / 10 ^ (dropped + kept) = coefficient / 10 ^ dropped / 10 ^ kept := by
    rw [pow_add, Nat.div_div_eq_div_mul]
  rw [gap, quotient]
  have even : kept ≠ 0 → 2 ∣ 10 ^ kept := fun some => (by norm_num : 2 ∣ 10).trans (dvd_pow_self 10 some)
  have step := div_succ_eq_iff (coefficient / 10 ^ dropped) (by positivity : 0 < 10 ^ kept)
  have parity : 2 ∣ 10 ^ kept →
      coefficient / 10 ^ dropped % 2 = coefficient / 10 ^ dropped % 10 ^ kept % 2 :=
    fun divides => (Nat.mod_mod_of_dvd _ divides).symm
  have one : kept = 0 → 10 ^ kept = 1 := fun none => by rw [none, pow_zero]
  have rounded := nearest_cases coefficient (10 ^ dropped)
  -- Only a number in the last step before an integer can reach it.
  by_cases last : coefficient / 10 ^ dropped % 10 ^ kept + 1 = 10 ^ kept
  · have single : 10 ^ kept - coefficient / 10 ^ dropped % 10 ^ kept = 1 := by omega
    rw [single, Nat.mul_one]
    rcases rounded with ⟨down, below | ⟨half, quotientEven⟩⟩ | ⟨up, above | ⟨half, quotientOdd⟩⟩
    · rw [down]
      omega
    · have none : kept = 0 := by
        by_contra some
        have divides := even some
        have same := parity divides
        omega
      rw [down]
      omega
    · rw [up]
      omega
    · rw [up]
      omega
  · have several : 2 ≤ 10 ^ kept - coefficient / 10 ^ dropped % 10 ^ kept := by omega
    have wide := Nat.mul_le_mul_left (10 ^ dropped) several
    rcases rounded with ⟨down, -⟩ | ⟨up, -⟩
    · rw [down]
      omega
    · rw [up]
      omega

/-- These are exactly the numbers whose integer part rounding keeps. -/
theorem whole_round_eq_iff {precision : Nat} (positive : 0 < precision) (coefficient : Nat)
    (exponent : Int) :
    whole (round precision coefficient exponent) = whole (coefficient, exponent) ↔
      KeepsWhole precision coefficient exponent := by
  unfold KeepsWhole
  simp only
  by_cases short : digits coefficient ≤ precision
  · simp [round, short]
  · rw [whole_round positive exponent short]
    simp only [short, false_or]
    generalize digits coefficient - precision = dropped
    by_cases before : 0 < exponent + dropped
    · rw [if_pos before, ← nearest_mul_eq_whole_iff before]
      simp only [whole, if_pos before.le]
    · -- The places after the point are those kept and those dropped.
      obtain ⟨kept, places⟩ : ∃ kept : Nat, (-exponent).toNat = dropped + kept :=
        ⟨(-exponent).toNat - dropped, by omega⟩
      have behind : (-(exponent + dropped)).toNat = kept := by omega
      rw [if_neg before, whole_of_nonpos _ (not_lt.mp before), whole_of_nonpos _ (by omega), behind,
        places, nearest_div_eq_div_iff]
      have point : dropped + kept = dropped ↔ kept = 0 := by omega
      constructor
      · rintro (wide | ⟨half, none, even⟩)
        · exact Or.inl wide
        · exact Or.inr ⟨half, point.mpr none, by rw [point.mpr none]; exact even⟩
      · rintro (wide | ⟨half, none, even⟩)
        · exact Or.inl wide
        · exact Or.inr ⟨half, point.mp none, by rw [none] at even; exact even⟩

end Significant
