import JolCommerce.Audit.AuditLog
import JolCommerce.Payments.StripeClient

/-! Payment intents and refunds: two services over the Stripe client, one with a log of its own. -/

namespace JolCommerce

open Python

/-- Payment intent lifecycle states. -/
inductive PaymentStatus where
  | created
  | requiresConfirmation
  | processing
  | succeeded
  | requiresAction
  | cancelled
  | failed
  deriving DecidableEq

namespace PaymentStatus

/-- The text of a state. -/
def value : PaymentStatus → String
  | created => "created"
  | requiresConfirmation => "requires_confirmation"
  | processing => "processing"
  | succeeded => "succeeded"
  | requiresAction => "requires_action"
  | cancelled => "cancelled"
  | failed => "failed"

/-- All states, in the order of the enumeration. -/
def all : List PaymentStatus :=
  [created, requiresConfirmation, processing, succeeded, requiresAction, cancelled, failed]

/-- `PaymentStatus(text)`. -/
def read (text : String) : Except PyError PaymentStatus := readMember "PaymentStatus" all value text

end PaymentStatus

/-- Request to create a payment intent. -/
structure PaymentIntentRequest where
  amountCents : Int
  currency : String
  paymentMethodId : String
  orderId : String
  customerId : Option String := none
  idempotencyKey : Option String := none
  metadata : Option (Dict String String) := none

/-- Response from payment intent operations. -/
structure PaymentIntentResponse where
  paymentIntentId : String
  status : PaymentStatus
  amountCents : Int
  currency : String
  orderId : String
  createdAt : String
  clientSecret : Option String

/-- What Stripe, the clock and the UUID generator give while an intent is created. -/
structure IntentReadings where
  /-- Stripe's reply to the request it is sent, or what the call raises. -/
  stripe : StripeRequest PaymentIntentParams → Except PyError StripePaymentIntent
  stamp : Stamp
  createdAt : DateTime

namespace PaymentIntentService

/-- Code of the service over the logger it constructed for itself. -/
abbrev IntentM := EStateM PyError AuditLogger

/-- Raise what a computation without effects raises. -/
def lift {α : Type} (result : Except PyError α) : IntentM α :=
  match result with
  | .ok value => pure value
  | .error error => throw error

/-- The audit record of a created intent. -/
def createdCall (request : PaymentIntentRequest) (intent : StripePaymentIntent) :
    LogCall JsonObject where
  actor := "payment_service"
  eventType := "payment.created"
  outcome := "success"
  transactionRef := intent.id
  details := some (.ofList [("order_id", .str request.orderId),
    ("amount_cents", .int request.amountCents), ("currency", .str request.currency)])

/-- `create_intent(request)`. -/
def createIntent (sha256 : String → String) (request : PaymentIntentRequest)
    (readings : IntentReadings) : IntentM PaymentIntentResponse := do
  let metadata := (request.metadata.getD Dict.empty).set "order_id" request.orderId
  let sent ← lift (StripeClient.createPaymentIntent request.customerId request.idempotencyKey
    (some metadata) request.amountCents request.currency request.paymentMethodId)
  let intent ← lift (readings.stripe sent)
  modify fun audit => audit.log sha256 readings.stamp (createdCall request intent)
  -- Stripe has states that this enumeration lacks, and they raise after the intent was logged.
  let status ← lift (PaymentStatus.read intent.status)
  return {
    paymentIntentId := intent.id
    status := status
    amountCents := intent.amount
    currency := intent.currency
    orderId := request.orderId
    createdAt := readings.createdAt.isoformat
    clientSecret := intent.clientSecret }

end PaymentIntentService

/-- Refund lifecycle states. -/
inductive RefundStatus where
  | pending
  | succeeded
  | failed
  | cancelled
  deriving DecidableEq

namespace RefundStatus

/-- The text of a state. -/
def value : RefundStatus → String
  | pending => "pending"
  | succeeded => "succeeded"
  | failed => "failed"
  | cancelled => "canceled"

/-- All states, in the order of the enumeration. -/
def all : List RefundStatus := [pending, succeeded, failed, cancelled]

/-- `RefundStatus(text)`. -/
def read (text : String) : Except PyError RefundStatus := readMember "RefundStatus" all value text

end RefundStatus

/-- Standard refund reasons. -/
inductive RefundReason where
  | duplicate
  | fraudulent
  | requestedByCustomer
  | orderNotFulfilled
  deriving DecidableEq

namespace RefundReason

/-- The text of a reason. -/
def value : RefundReason → String
  | duplicate => "duplicate"
  | fraudulent => "fraudulent"
  | requestedByCustomer => "requested_by_customer"
  | orderNotFulfilled => "order_not_fulfilled"

/-- All reasons, in the order of the enumeration. -/
def all : List RefundReason := [duplicate, fraudulent, requestedByCustomer, orderNotFulfilled]

/-- `RefundReason(text)`. -/
def read (text : String) : Except PyError RefundReason := readMember "RefundReason" all value text

end RefundReason

/-- Request to process a refund, in full where there is no amount. -/
structure RefundRequest where
  paymentIntentId : String
  amountCents : Option Int := none
  reason : RefundReason := .requestedByCustomer
  idempotencyKey : Option String := none

/-- Response from a refund operation. -/
structure RefundResponse where
  refundId : String
  paymentIntentId : String
  amountCents : Int
  status : RefundStatus
  reason : RefundReason
  createdAt : String

/-- What Stripe and the clock give while a refund is processed. -/
structure RefundReadings where
  /-- Stripe's reply to the request it is sent, or what the call raises. -/
  stripe : StripeRequest RefundParams → Except PyError StripeRefund
  createdAt : DateTime

/-- `RefundService.process_refund(request)`: the service has no logger to write to. -/
def processRefund (request : RefundRequest) (readings : RefundReadings) :
    Except PyError RefundResponse := do
  let refund ← readings.stripe (StripeClient.createRefund request.paymentIntentId
    request.amountCents (some request.reason.value) request.idempotencyKey)
  let status ← RefundStatus.read refund.status
  return {
    refundId := refund.id
    paymentIntentId := request.paymentIntentId
    amountCents := refund.amount
    status := status
    reason := request.reason
    createdAt := readings.createdAt.isoformat }

end JolCommerce
