import JolCommerce.Common
import JolCommerce.Python.Dict

/-! The Stripe client: which requests it builds, from payment method tokens only. -/

namespace JolCommerce

open Python

/-- The `automatic_payment_methods` parameter. -/
structure AutomaticPaymentMethods where
  enabled : Bool
  allowRedirects : String

/-- The parameters of `stripe.PaymentIntent.create`, those left out being absent. -/
structure PaymentIntentParams where
  amount : Int
  currency : String
  paymentMethod : String
  confirm : Bool
  automaticPaymentMethods : Option AutomaticPaymentMethods
  offSession : Option Bool
  customer : Option String
  metadata : Option (Dict String String)

/-- The parameters of `stripe.SetupIntent.create`. -/
structure SetupIntentParams where
  paymentMethod : String
  confirm : Bool
  usage : String
  customer : Option String
  metadata : Option (Dict String String)

/-- The parameters of `stripe.Refund.create`. -/
structure RefundParams where
  paymentIntent : String
  amount : Option Int
  reason : Option String

/-- A request as it is sent: its parameters and its `Idempotency-Key` header, if it has one. -/
structure StripeRequest (params : Type) where
  params : params
  idempotencyKey : Option String

/-- The attributes of a `stripe.PaymentIntent` that are read. -/
structure StripePaymentIntent where
  id : String
  status : String
  amount : Int
  currency : String
  clientSecret : Option String

/-- The attributes of a `stripe.Refund` that are read. -/
structure StripeRefund where
  id : String
  amount : Int
  status : String

namespace StripeClient

/-- `if text:` on an optional text, where the empty text counts as missing. -/
def given (text : Option String) : Option String := text.filter fun value => value ≠ ""

/-- `if metadata:` on an optional dictionary. -/
def filled (metadata : Option (Dict String String)) : Option (Dict String String) :=
  metadata.filter fun dict => !dict.entries.isEmpty

/-- The check that a payment method is a token. -/
def requireToken (paymentMethodId : String) : Except PyError Unit :=
  if "pm_".toList.isPrefixOf paymentMethodId.toList then .ok ()
  else .error (.valueError ("payment_method_id must be a Stripe token (pm_xxx). " ++
    "Raw card data must never be passed to this method."))

section Requests

variable (customerId idempotencyKey : Option String) (metadata : Option (Dict String String))

/-- The request of `create_payment_intent`. -/
def createPaymentIntent (amountCents : Int) (currency paymentMethodId : String) :
    Except PyError (StripeRequest PaymentIntentParams) := do
  requireToken paymentMethodId
  return {
    params := {
      amount := amountCents
      currency := currency
      paymentMethod := paymentMethodId
      confirm := true
      automaticPaymentMethods := some ⟨true, "never"⟩
      offSession := none
      customer := given customerId
      metadata := filled metadata }
    idempotencyKey := given idempotencyKey }

/-- The request of `create_setup_intent`. -/
def createSetupIntent (paymentMethodId : String) :
    Except PyError (StripeRequest SetupIntentParams) := do
  requireToken paymentMethodId
  return {
    params := {
      paymentMethod := paymentMethodId
      confirm := true
      usage := "off_session"
      customer := given customerId
      metadata := filled metadata }
    idempotencyKey := given idempotencyKey }

/-- The request of `charge_from_token`: off session, with the key only where one was passed. -/
def chargeFromToken (amountCents : Int) (currency paymentMethodId : String) :
    Except PyError (StripeRequest PaymentIntentParams) := do
  requireToken paymentMethodId
  return {
    params := {
      amount := amountCents
      currency := currency
      paymentMethod := paymentMethodId
      confirm := true
      automaticPaymentMethods := none
      offSession := some true
      customer := given customerId
      metadata := filled metadata }
    -- A missing key is not replaced by one of the client's own.
    idempotencyKey := given idempotencyKey }

end Requests

/-- The request of `create_refund`. -/
def createRefund (paymentIntentId : String) (amountCents : Option Int)
    (reason idempotencyKey : Option String) : StripeRequest RefundParams where
  params := { paymentIntent := paymentIntentId, amount := amountCents, reason := given reason }
  idempotencyKey := given idempotencyKey

end StripeClient

end JolCommerce
