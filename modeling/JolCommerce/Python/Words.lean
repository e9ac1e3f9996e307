import JolCommerce.Python.Text
import Mathlib.Data.List.DropRight

/-! Word characters, as the boundaries of a Python pattern see them, and the spaces that are none. -/

namespace Python

/-- Characters that `\w` accepts, `letter` telling letters and numerals beyond ASCII. -/
def isWord (letter : Char → Bool) (char : Char) : Bool :=
  -- In ASCII these are letters, digits and the underscore.
  if char.toNat < 128 then char.isAlphanum || char == '_'
  else !isSpace char && (isDigit char || letter char)

/-- The ASCII characters among them. -/
theorem isWord_ascii (letter : Char → Bool) {char : Char} (ascii : char.toNat < 128) :
    isWord letter char = (char.isAlphanum || char == '_') := by
  simp [isWord, ascii]

/-- ASCII digits are digits of the first run of ten. -/
theorem decimalDigit?_ascii {char : Char} (digit : char.isDigit = true) :
    decimalDigit? char = some (char.toNat - 0x30) := by
  have bounds : 0x30 ≤ char.toNat ∧ char.toNat < 0x30 + 10 := by
    simp only [Char.isDigit, Bool.and_eq_true, decide_eq_true_eq] at digit
    have lower : 48 ≤ char.toNat := digit.1
    have upper : char.toNat ≤ 57 := digit.2
    omega
  simp [decimalDigit?, digitZeros, bounds.1, bounds.2]

/-- So `str.isdigit` accepts them. -/
theorem isDigit_ascii {char : Char} (digit : char.isDigit = true) : isDigit char = true := by
  simp [isDigit, decimalDigit?_ascii digit]

/-- ASCII letters are word characters. -/
theorem isWord_isAlpha {letter : Char → Bool} {char : Char} (alpha : char.isAlpha = true) : isWord letter char = true := by
  -- In ASCII the letters are among the characters that a word may have.
  have ascii : char.toNat < 128 := by
    have either : (char.isUpper || char.isLower) = true := alpha
    rcases Bool.or_eq_true_iff.mp either with upper | lower
    · have within : 65 ≤ char.toNat ∧ char.toNat ≤ 90 := of_decide_eq_true upper
      omega
    · have within : (decide (97 ≤ char.toNat) && decide (char.toNat ≤ 122)) = true := lower
      have bound := of_decide_eq_true (Bool.and_eq_true_iff.mp within).2
      omega
  rw [isWord_ascii letter ascii]
  simp [Char.isAlphanum, alpha]

/-- Spaces are no word characters. -/
theorem isWord_isSpace {letter : Char → Bool} {char : Char} (space : isSpace char = true) :
    isWord letter char = false := by
  by_cases ascii : char.toNat < 128
  · -- The ASCII spaces come before the digits and the letters.
    have small : char.toNat ≤ 32 := by
      simp only [isSpace, Bool.or_eq_true, Bool.and_eq_true, decide_eq_true_eq, beq_iff_eq] at space
      omega
    have codes : ∀ code ≤ 32, (Char.ofNat code).isAlphanum = false ∧ Char.ofNat code ≠ '_' := by decide
    obtain ⟨plain, other⟩ := codes char.toNat small
    rw [Char.ofNat_toNat] at plain other
    rw [isWord_ascii letter ascii]
    simp [plain, other]
  · simp [isWord, ascii, space]

/-- Stripping takes spaces from both ends. -/
theorem strip_split (text : List Char) : ∃ front back, text = front ++ (strip text ++ back) ∧
    (∀ char ∈ front, isSpace char = true) ∧ ∀ char ∈ back, isSpace char = true := by
  refine ⟨text.takeWhile isSpace, (text.dropWhile isSpace).rtakeWhile isSpace, ?_,
    fun char => List.mem_takeWhile_imp, fun char => List.mem_rtakeWhile_imp⟩
  have behind : strip text ++ (text.dropWhile isSpace).rtakeWhile isSpace = text.dropWhile isSpace :=
    List.rdropWhile_append_rtakeWhile
  rw [behind, List.takeWhile_append_dropWhile]

/-- Stripping twice is stripping once. -/
theorem strip_strip (text : List Char) : strip (strip text) = strip text := by
  -- The first character that is left was no space before the end was stripped.
  have front : (strip text).dropWhile isSpace = strip text := by
    obtain ⟨back, cut⟩ := List.rdropWhile_prefix isSpace (text.dropWhile isSpace)
    change strip text ++ back = text.dropWhile isSpace at cut
    cases stripped : strip text with
    | nil => rfl
    | cons char rest =>
      rw [stripped, List.cons_append] at cut
      have visible : ¬isSpace char = true := by
        have first := List.head?_dropWhile_not isSpace text
        simpa [← cut] using first
      rw [List.dropWhile_cons_of_neg visible]
  change List.rdropWhile isSpace ((strip text).dropWhile isSpace) = strip text
  rw [front]
  exact List.rdropWhile_idempotent isSpace (text.dropWhile isSpace)

end Python
