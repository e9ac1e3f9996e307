import JolCommerce.Python.Words
import JolCommerce.Regex.Redaction

/-! Redaction of card numbers and e-mail addresses in what is logged. -/

namespace JolCommerce

open Python Regex

/-- `\b[0-9]{13,19}\b`. -/
def panRuns : List Run := [⟨Char.isDigit, 13, some 19⟩]

/-- A card number asks for digits. -/
theorem panRuns_consuming : ∃ run ∈ panRuns, 0 < run.least := by
  simp [panRuns]

/-- `PAN_PATTERN`. -/
def panPattern : Pattern := delimited panRuns panRuns_consuming

/-- `[A-Za-z0-9._%+-]`. -/
def isLocalPart (char : Char) : Bool := char.isAlphanum || "._%+-".toList.contains char

/-- `[A-Za-z0-9.-]`. -/
def isDomain (char : Char) : Bool := char.isAlphanum || ".-".toList.contains char

/-- `\b[A-Za-z0-9._%+-]+@[A-Za-z0-9.-]+\.…{2,}\b`, the class of the last run left open. -/
def emailRuns (isTopLevel : Char → Bool) : List Run :=
  [⟨isLocalPart, 1, none⟩, ⟨(· == '@'), 1, some 1⟩, ⟨isDomain, 1, none⟩, ⟨(· == '.'), 1, some 1⟩,
    ⟨isTopLevel, 2, none⟩]

/-- An address asks for a local part. -/
theorem emailRuns_consuming (isTopLevel : Char → Bool) :
    ∃ run ∈ emailRuns isTopLevel, 0 < run.least := by
  simp [emailRuns]

/-- An address with a top-level domain of a class. -/
def emailPatternWith (isTopLevel : Char → Bool) : Pattern :=
  delimited (emailRuns isTopLevel) (emailRuns_consuming isTopLevel)

/-- `EMAIL_PATTERN`, whose last class `[A-Z|a-z]` accepts a bar as well. -/
def emailPattern : Pattern := emailPatternWith fun char => char.isAlpha || char == '|'

/-- Raised when card data is detected in log content. -/
structure PiiDetectionError where
  message : String

/-- Redact card numbers, then addresses. -/
def sanitizeValue (letter : Char → Bool) (value : String) : String :=
  let withoutPan := panPattern.sub (isWord letter) "[PAN_REDACTED]".toList value.toList
  String.ofList (emailPattern.sub (isWord letter) "[EMAIL_REDACTED]".toList withoutPan)

/-- Whether a text contains what may be a card number. -/
def containsPan (letter : Char → Bool) (value : String) : Bool :=
  panPattern.search (isWord letter) none value.toList

/-- Assert that log content contains no card data. -/
def assertNoPiiInLogContent (letter : Char → Bool) (content : String) :
    Except PiiDetectionError Unit :=
  if containsPan letter content then
    .error ⟨"CRITICAL: Potential card PAN detected in log content. " ++
      "This violates PCI DSS SAQ A scope."⟩
  else .ok ()

/-- A value that can be logged: a text, a container, or another leaf such as a number. -/
inductive LogValue (α : Type) where
  | str (text : String)
  | leaf (value : α)
  | list (items : List (LogValue α))
  /-- The keys are pairwise different. -/
  | dict (entries : List (String × LogValue α))

namespace LogValue

variable {α : Type}

mutual

/-- Redact the values of a dictionary. -/
def sanitizeDict (letter : Char → Bool) : List (String × LogValue α) → List (String × LogValue α)
  | [] => []
  | (key, value) :: entries => (key, value.sanitizeEntry letter) :: sanitizeDict letter entries

/-- The value of one key: texts, dictionaries and lists are redacted. -/
def sanitizeEntry (letter : Char → Bool) : LogValue α → LogValue α
  | .str text => .str (sanitizeValue letter text)
  | .dict entries => .dict (sanitizeDict letter entries)
  | .list items => .list (sanitizeItems letter items)
  | .leaf value => .leaf value

/-- The items of a list. -/
def sanitizeItems (letter : Char → Bool) : List (LogValue α) → List (LogValue α)
  | [] => []
  | item :: items => item.sanitizeItem letter :: sanitizeItems letter items

/-- One item: dictionaries and texts are redacted, a list in a list is passed on as it is. -/
def sanitizeItem (letter : Char → Bool) : LogValue α → LogValue α
  | .dict entries => .dict (sanitizeDict letter entries)
  | .str text => .str (sanitizeValue letter text)
  | .list items => .list items
  | .leaf value => .leaf value

end

end LogValue

end JolCommerce
