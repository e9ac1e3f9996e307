import JolCommerce.Audit.PiiSafeLog
import JolCommerce.Common
import JolCommerce.Python.Dict

/-! The filter in front of the Bitrix24 boundary: a rule for each field, and patterns for free text. -/

namespace JolCommerce

open Python Regex

/-- `_EMAIL_RE`. -/
def bitrixEmailPattern : Pattern := emailPatternWith Char.isAlpha

/-- `\d`. -/
def isDecimal (char : Char) : Bool := (decimalDigit? char).isSome

/-- `[\d\s\-()]`. -/
def isPhoneChar (char : Char) : Bool := isDecimal char || isSpace char || "-()".toList.contains char

/-- `_PHONE_RE`, which is `\+?\b[\d][\d\s\-()]{6,}\b`. -/
def phonePattern : Pattern where
  atoms := [.run ⟨(· == '+'), 0, some 1⟩, .boundary, .run ⟨isDecimal, 1, some 1⟩,
    .run ⟨isPhoneChar, 6, none⟩, .boundary]
  consuming := ⟨⟨isDecimal, 1, some 1⟩, by simp, by decide⟩

/-- Action applied to a field that crosses the boundary. -/
inductive ScrubAction where
  | replaceWithOrderRef
  | hashOrRemove
  | remove
  | mapToExternalId
  | allow
  deriving DecidableEq

/-- `PII_FIELD_RULES`. -/
def piiFieldRules : Dict String ScrubAction :=
  ⟨[("customer_name", .replaceWithOrderRef), ("phone", .hashOrRemove), ("email", .remove),
    ("address", .remove), ("deceased_name", .remove), ("order_id", .mapToExternalId),
    ("external_id", .allow), ("status", .allow), ("amount", .allow), ("amount_cents", .allow),
    ("branch_id", .allow), ("service_type", .allow), ("currency", .allow)], by decide⟩

/-- Any field without a rule is removed. -/
def defaultAction : ScrubAction := .remove

/-- The action for a field. -/
def fieldAction (key : String) : ScrubAction := (piiFieldRules.get? key).getD defaultAction

/-- What the code can tell of a payload value: whether it is an `int`, its `str`, its truth value. -/
class PayloadValue (ν : Type) where
  isInt : ν → Bool
  str : ν → String
  truthy : ν → Bool

open PayloadValue

/-- A value that is sent: an integer as it came, or a text. -/
inductive SentValue (ν : Type) where
  | int (value : ν)
  | text (text : String)

/-- The scrubber, with its setting for telephone numbers. -/
structure PiiScrubber where
  hashPhone : Bool := true

namespace PiiScrubber

/-- `_scrub_value`: addresses are deleted, then numbers, then the spaces at both ends. -/
def scrubValue (letter : Char → Bool) (value : String) : String :=
  let withoutEmail := bitrixEmailPattern.sub (isWord letter) [] value.toList
  String.ofList (strip (phonePattern.sub (isWord letter) [] withoutEmail))

variable {ν : Type} [PayloadValue ν] (letter : Char → Bool) (sha256 : String → String)

/-- The key and the value that are written for a field, if any are. -/
def written (scrubber : PiiScrubber) (externalId key : String) (value : ν) :
    Option (String × SentValue ν) :=
  let action := fieldAction key
  if action = .allow ∧ key ≠ "order_id" then
    some (key, if isInt value then .int value else .text (scrubValue letter (str value)))
  else if action = .replaceWithOrderRef then some ("title", .text ("Order-" ++ externalId))
  else if action = .hashOrRemove ∧ scrubber.hashPhone = true ∧ truthy value = true then
    some ("phone_hash", .text (sha256 (str value)))
  else none

/-- One round of the loop over the payload. -/
def scrubField (scrubber : PiiScrubber) (externalId : String) (scrubbed : Dict String (SentValue ν))
    (field : String × ν) : Dict String (SentValue ν) :=
  match scrubber.written letter sha256 externalId field.1 field.2 with
  | some (key, value) => scrubbed.set key value
  | none => scrubbed

/-- The payload that is sent for one order. -/
def scrubOrderPayload (scrubber : PiiScrubber) (payload : Dict String ν) (externalId : String) :
    Except PyError (Dict String (SentValue ν)) :=
  if externalId = "" then
    .error (.valueError "order_id must map to a UUID external_id (§3.6)")
  else
    let scrubbed := payload.entries.foldl (scrubber.scrubField letter sha256 externalId)
      (Dict.empty.set "external_id" (.text externalId))
    let status := match payload.get? "status" with
      | some value => str value
      | none => ""
    .ok (scrubbed.setDefault "status" (.text status))

end PiiScrubber

end JolCommerce
