import JolCommerce.Audit.PiiSafeLog

/-! Redacted text holds no card number and no address, and redacting it again changes nothing. -/

namespace JolCommerce

open Python Regex

/-- A card number needs digits, and the marker of addresses has none. -/
theorem panRuns_sealed_email : Sealed panRuns "[EMAIL_REDACTED]".toList :=
  .of_checks rfl rfl rfl List.mem_cons_self (by decide) rfl

/-- Nor has its own marker. -/
theorem panRuns_sealed_pan : Sealed panRuns "[PAN_REDACTED]".toList :=
  .of_checks rfl rfl rfl List.mem_cons_self (by decide) rfl

/-- The sign that an address needs is in no marker. -/
theorem emailRuns_sealed :
    Sealed (emailRuns fun char => char.isAlpha || char == '|') "[EMAIL_REDACTED]".toList :=
  .of_checks rfl rfl rfl (List.mem_cons_of_mem _ List.mem_cons_self) (by decide) rfl

variable (letter : Char → Bool)

/-- A text in which neither pattern matches. -/
structure Redacted (text : String) : Prop where
  pan : panPattern.Clean (isWord letter) none text.toList
  email : emailPattern.Clean (isWord letter) none text.toList

/-- What comes out of the redaction is redacted. -/
theorem redacted_sanitizeValue (text : String) : Redacted letter (sanitizeValue letter text) := by
  -- The second pass leaves no address, and puts no card number together from what the first one
  -- left.
  constructor
  · rw [sanitizeValue, String.toList_ofList]
    have clean : panPattern.Clean (isWord letter) none
        (panPattern.sub (isWord letter) "[PAN_REDACTED]".toList text.toList) :=
      Pattern.clean_sub_self panRuns_sealed_pan _ text.toList
    exact clean.sub_other panRuns_sealed_email (emailRuns_consuming _)
  · rw [sanitizeValue, String.toList_ofList]
    exact Pattern.clean_sub_self emailRuns_sealed (emailRuns_consuming _) _

variable {letter}

/-- A redacted text is left alone. -/
theorem Redacted.sanitizeValue_eq {text : String} (redacted : Redacted letter text) :
    sanitizeValue letter text = text := by
  have kept := Pattern.sub_of_clean redacted.pan "[PAN_REDACTED]".toList
  rw [sanitizeValue, kept, Pattern.sub_of_clean redacted.email, String.ofList_toList]

/-- And contains no card number for the detector. -/
theorem Redacted.containsPan_eq {text : String} (redacted : Redacted letter text) :
    containsPan letter text = false :=
  Pattern.search_eq_false_iff.mpr redacted.pan

/-- Redaction is complete and idempotent. -/
theorem sanitizeValue_complete (letter : Char → Bool) (text : String) :
    Redacted letter (sanitizeValue letter text) ∧
      containsPan letter (sanitizeValue letter text) = false ∧
      assertNoPiiInLogContent letter (sanitizeValue letter text) = .ok () ∧
      sanitizeValue letter (sanitizeValue letter text) = sanitizeValue letter text := by
  have redacted := redacted_sanitizeValue letter text
  refine ⟨redacted, redacted.containsPan_eq, ?_, redacted.sanitizeValue_eq⟩
  simp [assertNoPiiInLogContent, redacted.containsPan_eq]

example : sanitizeValue (fun _ => false) "4111111111111111, ona@example.lt" =
    "[PAN_REDACTED], [EMAIL_REDACTED]" := by
  decide +kernel

end JolCommerce
