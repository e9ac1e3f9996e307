import JolCommerce.Payments.PaymentFlows
import JolCommerce.Payments.PaymentIntent
import JolCommerce.Run.Frame

/-! Prepayments and terminal receipts: the payment flows that store a reference at once. -/

namespace JolCommerce

open Python

/-- A `PaymentFlowService` together with the intent service it was given, which logs on its own. -/
structure PaymentServices where
  flow : FlowState
  intentAudit : AuditLogger

/-- What Stripe, the clock and the UUID generator give during a prepayment. -/
structure PrepayReadings where
  intent : IntentReadings
  tokenStamp : Stamp

namespace PaymentFlowService

/-- The audit record of a terminal receipt. -/
def inPersonCall (tenantId orderId receiptRef : String) : LogCall JsonObject where
  actor := "payment_service"
  eventType := "payment.in_person_recorded"
  outcome := "success"
  transactionRef := receiptRef
  details := some (.ofList [("tenant_id", .str tenantId), ("order_id", .str orderId)])

/-- `record_in_person(tenant_id, order_id, receipt_ref)`. -/
def recordInPerson (sha256 : String → String) (tenantId orderId receiptRef : String)
    (tokenStamp auditStamp : Stamp) : FlowM PaymentToken := do
  if receiptRef = "" then
    throw (.valueError "receipt_ref is required for in-person settlement")
  let token := .new tenantId orderId receiptRef .receiptRef tokenStamp
  let tokens ← ofExcept ((← get).tokens.store token)
  modify fun state => { state with tokens := tokens }
  modify fun state => { state with
    audit := state.audit.log sha256 auditStamp (inPersonCall tenantId orderId receiptRef) }
  return token

/-- Code of the service that reaches the intent service as well. -/
abbrev ServicesM := EStateM PyError PaymentServices

/-- Code of the flows alone. -/
def overFlow {α : Type} (code : FlowM α) : ServicesM α :=
  Run.zoom PaymentServices.flow (fun services flow => { services with flow := flow }) code

/-- Code of the intent service. -/
def overIntents {α : Type} (code : PaymentIntentService.IntentM α) : ServicesM α :=
  Run.zoom PaymentServices.intentAudit (fun services audit => { services with intentAudit := audit })
    code

/-- The token of a prepayment. -/
def prepaidToken (tenantId : String) (request : PaymentIntentRequest) (readings : PrepayReadings)
    (paymentIntentId : String) : PaymentToken :=
  .new tenantId request.orderId paymentIntentId .paymentIntent readings.tokenStamp

/-- `online_prepay(tenant_id, request)`. -/
def onlinePrepay (sha256 : String → String) (tenantId : String) (request : PaymentIntentRequest)
    (readings : PrepayReadings) : ServicesM PaymentIntentResponse := do
  let response ← overIntents (PaymentIntentService.createIntent sha256 request readings.intent)
  -- By now the money is taken, whether or not the reference may be stored.
  let tokens ← ofExcept ((← get).flow.tokens.store
    (prepaidToken tenantId request readings response.paymentIntentId))
  modify fun services => { services with flow := { services.flow with tokens := tokens } }
  return response

end PaymentFlowService

end JolCommerce
