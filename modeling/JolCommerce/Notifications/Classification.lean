import Mathlib.Data.List.Sort

/-! Sensitivity classes of notifications and the channels each of them may take. -/

namespace JolCommerce

/-- Sensitivity classes for outbound notifications. -/
inductive Classification where
  | isPublic
  | internal
  | confidential
  | restricted
  deriving DecidableEq

/-- The text of a class. -/
def Classification.value : Classification → String
  | .isPublic => "public"
  | .internal => "internal"
  | .confidential => "confidential"
  | .restricted => "restricted"

/-- Delivery channels. -/
inductive Channel where
  | pwaPush
  | sms
  | whatsapp
  | email
  | encryptedEmail
  deriving DecidableEq

/-- The text of a channel. -/
def Channel.value : Channel → String
  | .pwaPush => "pwa_push"
  | .sms => "sms"
  | .whatsapp => "whatsapp"
  | .email => "email"
  | .encryptedEmail => "encrypted_email"

/-- What the notification queue raises. -/
inductive NotificationError where
  /-- `ChannelNotAllowedError`, a `ValueError`. -/
  | channelNotAllowed (message : String)
  /-- `ValueError` with its message. -/
  | valueError (message : String)
  /-- `LookupError` with its message. -/
  | lookupError (message : String)
  deriving DecidableEq

/-- `CHANNEL_MATRIX`: the channels each class may take. -/
def channelMatrix : Classification → List Channel
  | .isPublic => [.pwaPush, .sms, .whatsapp]
  | .internal => [.sms, .whatsapp, .email]
  | .confidential => [.encryptedEmail]
  | .restricted => [.encryptedEmail]

/-- `repr` of a list of texts without quotes or escapes. -/
private def reprTexts (texts : List String) : String :=
  "[" ++ ", ".intercalate (texts.map fun text => "'" ++ text ++ "'") ++ "]"

/-- `assert_channel_allowed`: refuse a channel the class may not take, naming those it may. -/
def assertChannelAllowed (classification : Classification) (channel : Channel) :
    Except NotificationError Unit :=
  let allowed := channelMatrix classification
  if channel ∈ allowed then .ok ()
  else .error (.channelNotAllowed ("Channel '" ++ channel.value ++ "' is not allowed for " ++
    "classification '" ++ classification.value ++ "'. " ++
    "Allowed: " ++ reprTexts ((allowed.map Channel.value).mergeSort fun left right => left ≤ right)))

/-- A check that returned found the channel in the matrix. -/
theorem assertChannelAllowed_ok_iff {classification : Classification} {channel : Channel} :
    assertChannelAllowed classification channel = .ok () ↔ channel ∈ channelMatrix classification := by
  -- The error branch never returns.
  unfold assertChannelAllowed
  by_cases member : channel ∈ channelMatrix classification
  · simp [member]
  · simp [member]

end JolCommerce
