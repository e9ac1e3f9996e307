import JolCommerce.Payments.PaymentIntent
import JolCommerce.Payments.WebhookHandler

/-! The payment routes, each over the service it constructed for itself. -/

namespace JolCommerce

open Python

/-- Request body of `POST /intents`. -/
structure CreatePaymentIntentBody where
  amountCents : Int
  currency : String
  paymentMethodId : String
  orderId : String
  customerId : Option String := none
  idempotencyKey : Option String := none

/-- Response body of `POST /intents`. -/
structure PaymentIntentBody where
  paymentIntentId : String
  status : String
  amountCents : Int
  currency : String
  orderId : String

/-- Request body of `POST /refunds`. -/
structure CreateRefundBody where
  paymentIntentId : String
  amountCents : Option Int := none
  reason : Option String := none
  idempotencyKey : Option String := none

/-- Response body of `POST /refunds`. -/
structure RefundBody where
  refundId : String
  paymentIntentId : String
  amountCents : Int
  status : String

/-- Response body of `POST /webhooks/stripe`. -/
structure WebhookEventResponse where
  status : String

/-- A request to the webhook route and the instant at which it is processed. -/
structure WebhookPost where
  /-- The text of the body, or what decoding it raises. -/
  body : Except String String
  stripeSignature : String
  instant : DateTime
  /-- Drawn for the audit entry. -/
  uuid : Uuid

/-- The clock gives one instant throughout the request. -/
def WebhookPost.readings (post : WebhookPost) : WebhookReadings :=
  ⟨post.instant, post.instant, ⟨post.uuid, post.instant⟩⟩

namespace RoutesPayment

/-- `create_payment_intent(request)`. -/
def createPaymentIntent (sha256 : String → String) (request : CreatePaymentIntentBody)
    (readings : IntentReadings) : PaymentIntentService.IntentM PaymentIntentBody := do
  let result ← PaymentIntentService.createIntent sha256 {
    amountCents := request.amountCents
    currency := request.currency
    paymentMethodId := request.paymentMethodId
    orderId := request.orderId
    customerId := request.customerId
    idempotencyKey := request.idempotencyKey } readings
  return {
    paymentIntentId := result.paymentIntentId
    status := result.status.value
    amountCents := result.amountCents
    currency := result.currency
    orderId := result.orderId }

/-- `create_refund(request)`. -/
def createRefund (request : CreateRefundBody) (readings : RefundReadings) :
    Except PyError RefundBody := do
  let reason ← match StripeClient.given request.reason with
    | some text => RefundReason.read text
    | none => .ok .requestedByCustomer
  let result ← processRefund {
    paymentIntentId := request.paymentIntentId
    amountCents := request.amountCents
    reason := reason
    idempotencyKey := request.idempotencyKey } readings
  return {
    refundId := result.refundId
    paymentIntentId := result.paymentIntentId
    amountCents := result.amountCents
    status := result.status.value }

section Webhook

variable (constructEvent : String → String → Except ConstructError StripeEvent)

/-- The event a request carries, once it is decoded and verified. -/
def verified (post : WebhookPost) : Except PyError StripeEvent :=
  match post.body with
  -- A body that is no text raises a `ValueError` that the route does not catch.
  | .error message => .error (.valueError message)
  | .ok payload =>
    match verifySignature constructEvent payload post.stripeSignature maxTimestampDriftSeconds
      post.instant with
    | .error error => .error (.httpException 400 error.message)
    | .ok event => .ok event

/-- `result.get("status", "processed")`. -/
def statusOf (result : JsonObject) : String :=
  -- The handlers write nothing but texts under this key.
  match result.get? "status" with
  | some ⟨.str status, _⟩ => status
  | _ => "processed"

/-- `handle_stripe_webhook(request)`. -/
def handleStripeWebhook (sha256 : String → String) (post : WebhookPost) :
    StripeWebhookHandler.HandlerM WebhookEventResponse := do
  match verified constructEvent post with
  | .error error => throw error
  | .ok event =>
    let result ← StripeWebhookHandler.handleEvent sha256 event post.readings
    return ⟨statusOf ((← get).heap.read result)⟩

end Webhook

end RoutesPayment

end JolCommerce
