import JolCommerce.Numeric.Lexicographic
import JolCommerce.Python.Text

/-! Decimal numerals padded with zeros: their width, what they denote and their order as texts. -/

namespace Python

/-- Padding never shortens a numeral. -/
theorem zeroPad_length (width value : Nat) :
    (zeroPad width value).length = max width (natText value).length := by
  simp only [zeroPad, List.length_append, List.length_replicate]
  omega

/-- A number that fits its field is padded to the width of the field. -/
theorem zeroPad_length_of_lt {width value : Nat} (positive : 0 < width) (fits : value < 10 ^ width) :
    (zeroPad width value).length = width := by
  have short : (natText value).length ≤ width :=
    (Nat.length_toDigits_le_iff (by decide) positive).mpr fits
  rw [zeroPad_length]
  omega

/-- Zeros in front do not change the number that digits denote. -/
theorem ofDigitChars_zeroPad (width value : Nat) :
    Nat.ofDigitChars 10 (zeroPad width value) 0 = value := by
  simp [zeroPad, natText, Nat.ofDigitChars_append, Nat.ofDigitChars_replicate_zero]

/-- Padded numerals are different for different numbers, also beyond the width. -/
theorem zeroPad_injective {width left right : Nat} (same : zeroPad width left = zeroPad width right) :
    left = right := by
  have values := congrArg (Nat.ofDigitChars 10 · 0) same
  simpa only [ofDigitChars_zeroPad] using values

/-- The last digit of a padded numeral stands behind the numeral of the other digits. -/
theorem zeroPad_succ {width value : Nat} (positive : 0 < width) :
    zeroPad (width + 1) value = zeroPad width (value / 10) ++ [Nat.digitChar (value % 10)] := by
  by_cases small : value < 10
  · -- A single digit, behind zeros only.
    have quotient : value / 10 = 0 := by omega
    have remainder : value % 10 = value := by omega
    obtain ⟨rest, rfl⟩ : ∃ rest, width = rest + 1 := ⟨width - 1, by omega⟩
    have zeros : List.replicate (rest + 1) '0' = List.replicate rest '0' ++ ['0'] :=
      List.replicate_succ'
    simp [zeroPad, natText, quotient, remainder, Nat.toDigits_of_lt_base small,
      Nat.toDigits_of_lt_base (show 0 < 10 by decide), zeros]
  · have digits : natText value = natText (value / 10) ++ [Nat.digitChar (value % 10)] :=
      Nat.toDigits_of_base_le (by decide) (by omega)
    simp [zeroPad, digits]

private theorem digitChar_lt_iff {left right : Nat} (leftSmall : left < 10) (rightSmall : right < 10) :
    Nat.digitChar left < Nat.digitChar right ↔ left < right := by
  -- Ten digits on each side.
  have table : ∀ first < 10, ∀ second < 10,
      (Nat.digitChar first < Nat.digitChar second ↔ first < second) := by decide
  exact table left leftSmall right rightSmall

/-- Numerals that fit one field are ordered as texts the way their numbers are. -/
theorem zeroPad_lt_iff {width left right : Nat} (positive : 0 < width) (leftFits : left < 10 ^ width)
    (rightFits : right < 10 ^ width) : zeroPad width left < zeroPad width right ↔ left < right := by
  induction width generalizing left right with
  | zero => omega
  | succ width ih =>
    -- The quotients are compared before the last digits, on both sides.
    rcases Nat.eq_zero_or_pos width with rfl | wider
    · have leftDigit : natText left = [Nat.digitChar left] := Nat.toDigits_of_lt_base (by omega)
      have rightDigit : natText right = [Nat.digitChar right] := Nat.toDigits_of_lt_base (by omega)
      simp [zeroPad, leftDigit, rightDigit, List.cons_lt_cons_iff,
        digitChar_lt_iff (show left < 10 by omega) (show right < 10 by omega)]
    · rw [Nat.pow_succ] at leftFits rightFits
      have leftFront : left / 10 < 10 ^ width := by omega
      have rightFront : right / 10 < 10 ^ width := by omega
      have lengths : (zeroPad width (left / 10)).length = (zeroPad width (right / 10)).length := by
        rw [zeroPad_length_of_lt wider leftFront, zeroPad_length_of_lt wider rightFront]
      have fronts : zeroPad width (left / 10) = zeroPad width (right / 10) ↔ left / 10 = right / 10 :=
        ⟨zeroPad_injective, fun same => by rw [same]⟩
      rw [zeroPad_succ wider, zeroPad_succ wider, Lexicographic.append_lt_append_iff lengths,
        ih wider leftFront rightFront, fronts]
      simp only [List.cons_lt_cons_iff, List.not_lt_nil, and_false, or_false,
        digitChar_lt_iff (Nat.mod_lt left (by decide)) (Nat.mod_lt right (by decide))]
      omega

/-- A field of one width in front is compared by its number. -/
theorem zeroPad_append_lt_iff {width left right : Nat} (positive : 0 < width)
    (leftFits : left < 10 ^ width) (rightFits : right < 10 ^ width) (leftRest rightRest : List Char) :
    zeroPad width left ++ leftRest < zeroPad width right ++ rightRest ↔
      left < right ∨ left = right ∧ leftRest < rightRest := by
  have lengths : (zeroPad width left).length = (zeroPad width right).length := by
    rw [zeroPad_length_of_lt positive leftFits, zeroPad_length_of_lt positive rightFits]
  have fronts : zeroPad width left = zeroPad width right ↔ left = right :=
    ⟨zeroPad_injective, fun same => by rw [same]⟩
  rw [Lexicographic.append_lt_append_iff lengths, zeroPad_lt_iff positive leftFits rightFits, fronts]

end Python
