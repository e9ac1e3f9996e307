import JolCommerce.Common
import JolCommerce.Python.Dict
import JolCommerce.Python.Text

/-! The token store: gateway references by token id, none of which looks like a card number. -/

namespace JolCommerce

open Python

/-- Kinds of gateway references stored. -/
inductive TokenType where
  | setupIntent
  | paymentIntent
  | receiptRef
  deriving DecidableEq

/-- The text of a kind. -/
def TokenType.value : TokenType → String
  | setupIntent => "setup_intent"
  | paymentIntent => "payment_intent"
  | receiptRef => "receipt_ref"

/-- A stored gateway reference bound to a tenant and an order. -/
structure PaymentToken where
  tenantId : String
  orderId : String
  gatewayRef : String
  tokenType : TokenType
  encryptedAtRest : Bool
  tokenId : String
  storedAt : String
  deriving DecidableEq

/-- A token with its defaults drawn. -/
def PaymentToken.new (tenantId orderId gatewayRef : String) (tokenType : TokenType)
    (stamp : Stamp) : PaymentToken where
  tenantId := tenantId
  orderId := orderId
  gatewayRef := gatewayRef
  tokenType := tokenType
  encryptedAtRest := true
  tokenId := stamp.uuid.toStr
  storedAt := stamp.moment.isoformat

/-- `PaymentTokenStore._tokens`. -/
structure PaymentTokenStore where
  tokens : Dict String PaymentToken

namespace PaymentTokenStore

/-- A store without tokens. -/
def new : PaymentTokenStore := ⟨Dict.empty⟩

/-- `_assert_zero_pan(value)`: nothing but digits and blanks, with as many digits as a card has. -/
def assertZeroPan (value : String) : Except PyError Unit :=
  let digits := (value.toList.filter isDigit).length
  -- A text without blanks that is all digits is not empty here.
  if 13 ≤ digits ∧ digits ≤ 19 ∧ (value.toList.filter fun char => char ≠ ' ').all isDigit = true then
    .error (.valueError ("Zero-PAN violation: gateway_ref looks like a raw card number. " ++
      "Only gateway tokens (pm_xxx/seti_xxx) and receipt refs are storable."))
  else .ok ()

/-- `store(token)`. -/
def store (store : PaymentTokenStore) (token : PaymentToken) : Except PyError PaymentTokenStore := do
  assertZeroPan token.gatewayRef
  return ⟨store.tokens.set token.tokenId token⟩

/-- `for_order(tenant_id, order_id)`. -/
def forOrder (store : PaymentTokenStore) (tenantId orderId : String) : List PaymentToken :=
  store.tokens.values.filter fun token => token.tenantId = tenantId && token.orderId = orderId

/-- `get(token_id)`. -/
def get (store : PaymentTokenStore) (tokenId : String) : Option PaymentToken :=
  store.tokens.get? tokenId

/-- A token is stored under some id. -/
def Holds (store : PaymentTokenStore) (token : PaymentToken) : Prop :=
  ∃ tokenId, store.get tokenId = some token

end PaymentTokenStore

end JolCommerce
