import JolCommerce.Audit.AuditLog
import JolCommerce.Payments.PaymentToken
import JolCommerce.Payments.StripeClient
import JolCommerce.Run.Idempotency

/-! Deferred payments: a card is authorized now and charged from the stored token later. -/

namespace JolCommerce

open Python

/-- The attributes of a `stripe.SetupIntent` that are read. -/
structure StripeSetupIntent where
  id : String

/-- A charge that Stripe performed, with the token it was asked for. -/
structure DeferredCharge where
  /-- Stripe itself sees no more of the token than the references in the metadata. -/
  token : PaymentToken
  params : PaymentIntentParams

/-- A `PaymentFlowService` and the gateway behind it. -/
structure FlowState where
  tokens : PaymentTokenStore
  audit : AuditLogger
  /-- Stripe: the idempotency keys of the charges it was asked for, and those it performed. -/
  gateway : Idempotency.Server String DeferredCharge

/-- The arguments of `authorize_deferred`. -/
structure AuthorizeRequest where
  tenantId : String
  orderId : String
  paymentMethodId : String
  customerId : Option String := none
  idempotencyKey : Option String := none

/-- What Stripe, the clock and the UUID generator give during an authorization. -/
structure AuthorizeReadings where
  /-- Stripe's reply to the request it is sent, or what the call raises. -/
  stripe : StripeRequest SetupIntentParams → Except PyError StripeSetupIntent
  tokenStamp : Stamp
  auditStamp : Stamp

/-- The arguments of `charge_deferred` besides the token. -/
structure ChargeRequest where
  amountCents : Int
  currency : String := "eur"
  paymentMethodId : String
  customerId : Option String := none
  idempotencyKey : Option String := none

/-- What Stripe, the clock and the UUID generator give during a charge. -/
structure ChargeReadings where
  /-- Stripe's reply, or what the call raises although the charge may have been performed. -/
  stripe : StripeRequest PaymentIntentParams → Except PyError StripePaymentIntent
  auditStamp : Stamp

/-- Outcome of a deferred charge. -/
structure DeferredChargeResult where
  paymentIntentId : String
  status : String
  amountCents : Int
  currency : String

namespace PaymentFlowService

/-- Code of the service. -/
abbrev FlowM := EStateM PyError FlowState

/-- The request for a SetupIntent. -/
def setupRequest (request : AuthorizeRequest) : Except PyError (StripeRequest SetupIntentParams) :=
  StripeClient.createSetupIntent request.customerId request.idempotencyKey
    (some (Dict.empty.set "order_id" request.orderId)) request.paymentMethodId

/-- The token of an authorization. -/
def authorizedToken (request : AuthorizeRequest) (readings : AuthorizeReadings)
    (intent : StripeSetupIntent) : PaymentToken :=
  .new request.tenantId request.orderId intent.id .setupIntent readings.tokenStamp

/-- The audit record of an authorization. -/
def authorizedCall (request : AuthorizeRequest) (intent : StripeSetupIntent) :
    LogCall JsonObject where
  actor := "payment_service"
  eventType := "payment.deferred_authorized"
  outcome := "success"
  transactionRef := intent.id
  details := some (.ofList [("tenant_id", .str request.tenantId),
    ("order_id", .str request.orderId)])

/-- The request for a charge: its key is the one that was passed, if any. -/
def chargeRequest (token : PaymentToken) (request : ChargeRequest) :
    Except PyError (StripeRequest PaymentIntentParams) :=
  StripeClient.chargeFromToken request.customerId request.idempotencyKey
    (some ((Dict.empty.set "order_id" token.orderId).set "setup_intent" token.gatewayRef))
    request.amountCents request.currency request.paymentMethodId

/-- The audit record of a charge. -/
def chargedCall (token : PaymentToken) (request : ChargeRequest) (intent : StripePaymentIntent) :
    LogCall JsonObject where
  actor := "payment_service"
  eventType := "payment.deferred_charged"
  outcome := if intent.status = "succeeded" then "success" else "failure"
  transactionRef := intent.id
  details := some (.ofList [("tenant_id", .str token.tenantId), ("order_id", .str token.orderId),
    ("amount_cents", .int request.amountCents), ("status", .str intent.status)])

/-- `authorize_deferred(tenant_id, order_id, payment_method_id, ...)`. -/
def authorizeDeferred (sha256 : String → String) (request : AuthorizeRequest)
    (readings : AuthorizeReadings) : FlowM PaymentToken := do
  let sent ← ofExcept (setupRequest request)
  let intent ← ofExcept (readings.stripe sent)
  let token := authorizedToken request readings intent
  -- The SetupIntent exists by now, whether or not its reference may be stored.
  let tokens ← ofExcept ((← get).tokens.store token)
  modify fun state => { state with tokens := tokens }
  modify fun state => { state with
    audit := state.audit.log sha256 readings.auditStamp (authorizedCall request intent) }
  return token

/-- `charge_deferred(token, ...)`: neither the store nor an earlier charge is looked at. -/
def chargeDeferred (sha256 : String → String) (token : PaymentToken) (request : ChargeRequest)
    (readings : ChargeReadings) : FlowM DeferredChargeResult := do
  if token.tokenType ≠ .setupIntent then
    throw (.valueError ("Deferred charge requires a setup_intent token, got " ++
      token.tokenType.value))
  let sent ← ofExcept (chargeRequest token request)
  -- Stripe performs the charge before its reply arrives, or fails to.
  modify fun state => { state with
    gateway := state.gateway.handle sent.idempotencyKey ⟨token, sent.params⟩ }
  let intent ← ofExcept (readings.stripe sent)
  modify fun state => { state with
    audit := state.audit.log sha256 readings.auditStamp (chargedCall token request intent) }
  return {
    paymentIntentId := intent.id
    status := intent.status
    amountCents := intent.amount
    currency := intent.currency }

end PaymentFlowService

end JolCommerce
