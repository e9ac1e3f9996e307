import Mathlib.Algebra.Order.Round
import Mathlib.Tactic.FieldSimp
import Mathlib.Tactic.Linarith
import Mathlib.Tactic.Ring

/-! A rounded share put on top of a whole amount, and the amount found again from the total. -/

namespace Share

variable {α : Type} [Field α] [LinearOrder α] [IsStrictOrderedRing α] [FloorRing α]

/-- A whole amount with a share of it on top, the share rounded to a whole number. -/
def withShare (rate : α) (amount : ℤ) : ℤ := amount + round (amount * rate)

/-- A quotient close enough to the exact one that rounding it finds the amount again. -/
def CloseQuotient (rate : α) (total : ℤ) (quotient : α) : Prop :=
  |quotient - total / (1 + rate)| < rate / (2 * (1 + rate))

variable {rate : α}

/-- The amount below a total is found again. -/
theorem round_quotient (positive : 0 < rate) {amount : ℤ} {quotient : α}
    (close : CloseQuotient rate (withShare rate amount) quotient) : round quotient = amount := by
  have base : 0 < 1 + rate := by linarith
  -- The rounding of the share is divided by more than one, so less than half a unit is left of it.
  have rounding := abs_sub_round ((amount : α) * rate)
  have exact : (withShare rate amount : α) / (1 + rate) - amount =
      -((amount * rate - round (amount * rate)) / (1 + rate)) := by
    unfold withShare
    push_cast
    field_simp
    ring
  have offset : |(withShare rate amount : α) / (1 + rate) - amount| ≤ 1 / 2 / (1 + rate) := by
    rw [exact, abs_neg, abs_div, abs_of_pos base]
    gcongr
  have margin : rate / (2 * (1 + rate)) + 1 / 2 / (1 + rate) = 1 / 2 := by
    field_simp
    ring
  have near : |quotient - amount| < 1 / 2 := by
    calc |quotient - amount|
        ≤ |quotient - withShare rate amount / (1 + rate)| +
          |(withShare rate amount : α) / (1 + rate) - amount| := abs_sub_le _ _ _
      _ < rate / (2 * (1 + rate)) + 1 / 2 / (1 + rate) := add_lt_add_of_lt_of_le close offset
      _ = 1 / 2 := margin
  obtain ⟨below, above⟩ := abs_lt.mp near
  rw [round_eq_iff]
  constructor <;> linarith

/-- A total is found again up to one unit. -/
theorem withShare_round_quotient (positive : 0 < rate) (small : rate < 1) {total : ℤ}
    {quotient : α} (close : CloseQuotient rate total quotient) :
    |withShare rate (round quotient) - total| ≤ 1 := by
  have base : 0 < 1 + rate := by linarith
  generalize amountDef : round quotient = amount
  -- The error of the amount is magnified by the rate, and the rounding of the share comes on top.
  have first := abs_sub_round quotient
  rw [amountDef] at first
  have second := abs_sub_round ((amount : α) * rate)
  have amountError : |(amount : α) - total / (1 + rate)| < 1 / 2 + rate / (2 * (1 + rate)) := by
    calc |(amount : α) - total / (1 + rate)|
        ≤ |(amount : α) - quotient| + |quotient - total / (1 + rate)| := abs_sub_le _ _ _
      _ < 1 / 2 + rate / (2 * (1 + rate)) := by
          rw [abs_sub_comm (amount : α)]
          exact add_lt_add_of_le_of_lt first close
  have split : ((withShare rate amount - total : ℤ) : α) =
      (1 + rate) * (amount - total / (1 + rate)) - (amount * rate - round (amount * rate)) := by
    unfold withShare
    push_cast
    field_simp
    ring
  have scaled : (1 + rate) * (1 / 2 + rate / (2 * (1 + rate))) = 1 / 2 + rate := by
    field_simp
    ring
  -- Whole numbers less than two apart are at most one apart.
  have apart : |((withShare rate amount - total : ℤ) : α)| < 2 := by
    calc |((withShare rate amount - total : ℤ) : α)|
        ≤ |(1 + rate) * ((amount : α) - total / (1 + rate))| +
          |(amount : α) * rate - round ((amount : α) * rate)| := by
          rw [split]
          exact abs_sub _ _
      _ = (1 + rate) * |(amount : α) - total / (1 + rate)| +
          |(amount : α) * rate - round ((amount : α) * rate)| := by
          rw [abs_mul, abs_of_pos base]
      _ < (1 + rate) * (1 / 2 + rate / (2 * (1 + rate))) + 1 / 2 :=
          add_lt_add_of_lt_of_le (mul_lt_mul_of_pos_left amountError base) second
      _ = 1 + rate := by
          rw [scaled]
          ring
      _ < 2 := by linarith
  have whole : |withShare rate amount - total| < 2 := by exact_mod_cast apart
  omega

end Share
