import JolCommerce.Audit.Export
import JolCommerce.Payments.Prepayment
import JolCommerce.Python.UuidLaws
import JolCommerce.Run.Purge
import Mathlib.Data.List.ReduceOption

/-! What the payment service acknowledged to its callers is what its store and its logs tell. -/

namespace JolCommerce

open Python

/-- A call of the payment service. -/
inductive PaymentCall where
  | onlinePrepay (tenantId : String) (request : PaymentIntentRequest) (readings : PrepayReadings)
  | authorizeDeferred (request : AuthorizeRequest) (readings : AuthorizeReadings)
  | chargeDeferred (token : PaymentToken) (request : ChargeRequest) (readings : ChargeReadings)
  | recordInPerson (tenantId orderId receiptRef : String) (tokenStamp auditStamp : Stamp)

/-- The identifier that a call draws for its token. -/
def PaymentCall.drawn : PaymentCall → Option Uuid
  | onlinePrepay _ _ readings => some readings.tokenStamp.uuid
  | authorizeDeferred _ readings => some readings.tokenStamp.uuid
  | chargeDeferred .. => none
  | recordInPerson _ _ _ tokenStamp _ => some tokenStamp.uuid

/-- What becomes known of the payment of an order. -/
inductive PaymentFact where
  /-- The gateway knows the payment, or its authorization, under a reference. -/
  | referenced (tenantId orderId gatewayRef : String) (tokenType : TokenType)
  /-- A charge was asked for and ended in a state of its own. -/
  | charged (tenantId orderId paymentIntentId status : String) (amountCents : Int)
  deriving DecidableEq

namespace PaymentFact

/-- The fact is one that the token store keeps. -/
def isReferenced : PaymentFact → Bool
  | referenced .. => true
  | charged .. => false

/-- The fact is one that the token store keeps for an order. -/
def isReferencedFor (tenantId orderId : String) : PaymentFact → Bool
  | referenced owner order _ _ => owner = tenantId && order = orderId
  | charged .. => false

/-- The order and the intent of a prepayment. -/
def prepaid? : PaymentFact → Option (String × String)
  | referenced _ orderId gatewayRef .paymentIntent => some (orderId, gatewayRef)
  | referenced _ _ _ .setupIntent => none
  | referenced _ _ _ .receiptRef => none
  | charged .. => none

/-- The fact is one that the log of the flow service tells of. -/
def isFlow (fact : PaymentFact) : Bool := fact.prepaid?.isNone

/-- The fact that a record of the flow service tells of. -/
def told? (eventType transactionRef : String) (details : JsonObject) : Option PaymentFact := do
  if eventType = "payment.deferred_authorized" then
    let tenantId ← detailText? details "tenant_id"
    let orderId ← detailText? details "order_id"
    return referenced tenantId orderId transactionRef .setupIntent
  else if eventType = "payment.in_person_recorded" then
    let tenantId ← detailText? details "tenant_id"
    let orderId ← detailText? details "order_id"
    return referenced tenantId orderId transactionRef .receiptRef
  else if eventType = "payment.deferred_charged" then
    let tenantId ← detailText? details "tenant_id"
    let orderId ← detailText? details "order_id"
    let status ← detailText? details "status"
    let amountCents ← detailInt? details "amount_cents"
    return charged tenantId orderId transactionRef status amountCents
  else none

/-- The order and the intent that a record of the intent service tells of. -/
def created? (eventType transactionRef : String) (details : JsonObject) :
    Option (String × String) := do
  if eventType = "payment.created" then
    let orderId ← detailText? details "order_id"
    return (orderId, transactionRef)
  else none

/-- What is kept for an order is kept. -/
theorem filter_isReferencedFor (tenantId orderId : String) (facts : List PaymentFact) :
    (facts.filter isReferenced).filter (isReferencedFor tenantId orderId) =
      facts.filter (isReferencedFor tenantId orderId) := by
  rw [List.filter_filter]
  apply List.filter_congr
  intro fact _
  cases fact with
  | referenced owner order gatewayRef tokenType => simp [isReferenced]
  | charged owner order paymentIntentId status amountCents => rfl

end PaymentFact

/-- The fact that a stored token stands for. -/
def PaymentToken.fact (token : PaymentToken) : PaymentFact :=
  .referenced token.tenantId token.orderId token.gatewayRef token.tokenType

/-- The fact that an audit entry tells of. -/
def AuditEntry.paymentFact? (entry : AuditEntry) : Option PaymentFact :=
  PaymentFact.told? entry.eventType entry.transactionRef entry.details

/-- The created intent that an audit entry tells of. -/
def AuditEntry.createdIntent? (entry : AuditEntry) : Option (String × String) :=
  PaymentFact.created? entry.eventType entry.transactionRef entry.details

/-- Services without tokens and entries, with whatever was asked of the gateway before. -/
def PaymentServices.fresh (gateway : Idempotency.Server String DeferredCharge) : PaymentServices :=
  ⟨⟨PaymentTokenStore.new, AuditLoggerOf.new, gateway⟩, AuditLoggerOf.new⟩

namespace PaymentFlowService

/-- The services after a call, whether it returned or raised. -/
def afterCall (sha256 : String → String) (services : PaymentServices) :
    PaymentCall → PaymentServices
  | .onlinePrepay tenantId request readings =>
    stateAfter (onlinePrepay sha256 tenantId request readings) services
  | .authorizeDeferred request readings =>
    stateAfter (overFlow (authorizeDeferred sha256 request readings)) services
  | .chargeDeferred token request readings =>
    stateAfter (overFlow (chargeDeferred sha256 token request readings)) services
  | .recordInPerson tenantId orderId receiptRef tokenStamp auditStamp =>
    stateAfter (overFlow (recordInPerson sha256 tenantId orderId receiptRef tokenStamp auditStamp))
      services

/-- What the caller knows once a call has returned, from its arguments and its result. -/
def acknowledged (sha256 : String → String) (services : PaymentServices) :
    PaymentCall → Option PaymentFact
  | .onlinePrepay tenantId request readings =>
    (resultOf (onlinePrepay sha256 tenantId request readings) services).toOption.map fun response =>
      .referenced tenantId response.orderId response.paymentIntentId .paymentIntent
  | .authorizeDeferred request readings =>
    (resultOf (overFlow (authorizeDeferred sha256 request readings)) services).toOption.map
      PaymentToken.fact
  | .chargeDeferred token request readings =>
    (resultOf (overFlow (chargeDeferred sha256 token request readings)) services).toOption.map
      fun result => .charged token.tenantId token.orderId result.paymentIntentId result.status
        request.amountCents
  | .recordInPerson tenantId orderId receiptRef tokenStamp auditStamp =>
    (resultOf (overFlow (recordInPerson sha256 tenantId orderId receiptRef tokenStamp auditStamp))
      services).toOption.map PaymentToken.fact

/-- The order and the intent of a payment that Stripe took, whatever became of the call. -/
def taken : PaymentCall → Option (String × String)
  | .onlinePrepay _ request readings =>
    ((PaymentIntentService.intentRequest request >>= readings.intent.stripe).toOption).map
      fun intent => (request.orderId, intent.id)
  | .authorizeDeferred .. => none
  | .chargeDeferred .. => none
  | .recordInPerson .. => none

section Outcomes

variable (sha256 : String → String)

/-- A token is stored under its id, unless its reference looks like a card number. -/
theorem store_cases (store : PaymentTokenStore) (token : PaymentToken) :
    (∃ error, store.store token = .error error) ∨
      store.store token = .ok ⟨store.tokens.set token.tokenId token⟩ := by
  rw [PaymentTokenStore.store]
  cases PaymentTokenStore.assertZeroPan token.gatewayRef with
  | error error => exact .inl ⟨error, rfl⟩
  | ok _ => exact .inr rfl

/-- The flow after a token was stored and a record of it was logged. -/
def stored (state : FlowState) (token : PaymentToken) (stamp : Stamp) (call : LogCall JsonObject) :
    FlowState where
  tokens := ⟨state.tokens.tokens.set token.tokenId token⟩
  audit := state.audit.log sha256 stamp call
  gateway := state.gateway

/-- An authorization raises and changes nothing, or stores its token and logs it. -/
theorem authorizeDeferred_cases (state : FlowState) (request : AuthorizeRequest)
    (readings : AuthorizeReadings) :
    (∃ error, (authorizeDeferred sha256 request readings).run state = .error error state) ∨
      ∃ intent, (authorizeDeferred sha256 request readings).run state =
        .ok (authorizedToken request readings intent)
          (stored sha256 state (authorizedToken request readings intent) readings.auditStamp
            (authorizedCall request intent)) := by
  -- In the order of the body: the request, Stripe's reply, the check of the store.
  cases built : setupRequest request with
  | error error => exact .inl ⟨error, by simp [authorizeDeferred, built]⟩
  | ok sent =>
    cases replied : readings.stripe sent with
    | error error => exact .inl ⟨error, by simp [authorizeDeferred, built, replied]⟩
    | ok intent =>
      obtain ⟨error, refused⟩ | accepted :=
        store_cases state.tokens (authorizedToken request readings intent)
      · exact .inl ⟨error, by simp [authorizeDeferred, built, replied, refused]⟩
      · exact .inr ⟨intent, by simp [authorizeDeferred, built, replied, accepted, stored]⟩

/-- A charge raises and logs nothing, or logs what Stripe replied; it stores nothing either way. -/
theorem chargeDeferred_cases (state : FlowState) (token : PaymentToken) (request : ChargeRequest)
    (readings : ChargeReadings) :
    (∃ error gateway, (chargeDeferred sha256 token request readings).run state =
        .error error { state with gateway := gateway }) ∨
      ∃ intent gateway, (chargeDeferred sha256 token request readings).run state =
        .ok ⟨intent.id, intent.status, intent.amount, intent.currency⟩
          ⟨state.tokens,
            state.audit.log sha256 readings.auditStamp (chargedCall token request intent),
            gateway⟩ := by
  by_cases deferred : token.tokenType = .setupIntent
  · cases built : chargeRequest token request with
    | error error =>
      exact .inl ⟨error, state.gateway, by simp [chargeDeferred, deferred, built]⟩
    | ok sent =>
      cases replied : readings.stripe sent with
      | error error =>
        -- The charge may have been performed although its reply is lost.
        exact .inl ⟨error, state.gateway.handle sent.idempotencyKey ⟨token, sent.params⟩,
          by simp [chargeDeferred, deferred, built, replied]⟩
      | ok intent =>
        exact .inr ⟨intent, state.gateway.handle sent.idempotencyKey ⟨token, sent.params⟩,
          by simp [chargeDeferred, deferred, built, replied]⟩
  · exact .inl ⟨.valueError ("Deferred charge requires a setup_intent token, got " ++
      token.tokenType.value), state.gateway, by simp [chargeDeferred, deferred]⟩

/-- A receipt raises and changes nothing, or is stored and logged. -/
theorem recordInPerson_cases (state : FlowState) (tenantId orderId receiptRef : String)
    (tokenStamp auditStamp : Stamp) :
    (∃ error, (recordInPerson sha256 tenantId orderId receiptRef tokenStamp auditStamp).run state =
        .error error state) ∨
      (recordInPerson sha256 tenantId orderId receiptRef tokenStamp auditStamp).run state =
        .ok (.new tenantId orderId receiptRef .receiptRef tokenStamp)
          (stored sha256 state (.new tenantId orderId receiptRef .receiptRef tokenStamp) auditStamp
            (inPersonCall tenantId orderId receiptRef)) := by
  by_cases missing : receiptRef = ""
  · exact .inl ⟨.valueError "receipt_ref is required for in-person settlement",
      by simp [recordInPerson, missing]⟩
  · obtain ⟨error, refused⟩ | accepted :=
      store_cases state.tokens (.new tenantId orderId receiptRef .receiptRef tokenStamp)
    · exact .inl ⟨error, by simp [recordInPerson, missing, refused]⟩
    · exact .inr (by simp [recordInPerson, missing, accepted, stored])

/-- How a prepayment ends: before the money is taken, after it was logged, or with its token. -/
inductive Prepays (services : PaymentServices) (tenantId : String) (request : PaymentIntentRequest)
    (readings : PrepayReadings) : Prop where
  | refused (error : PyError)
    (untaken : taken (.onlinePrepay tenantId request readings) = none)
    (raised : (onlinePrepay sha256 tenantId request readings).run services = .error error services)
  | unreturned (error : PyError) (intent : StripePaymentIntent)
    (took : taken (.onlinePrepay tenantId request readings) = some (request.orderId, intent.id))
    (raised : (onlinePrepay sha256 tenantId request readings).run services =
      .error error (afterLog sha256 services request readings intent))
  | returned (intent : StripePaymentIntent) (status : PaymentStatus)
    (took : taken (.onlinePrepay tenantId request readings) = some (request.orderId, intent.id))
    (returns : (onlinePrepay sha256 tenantId request readings).run services =
      .ok (PaymentIntentService.responseFor request readings.intent intent status)
        (afterToken sha256 services tenantId request readings intent))

/-- A prepayment ends in one of these ways. -/
theorem onlinePrepay_cases (services : PaymentServices) (tenantId : String)
    (request : PaymentIntentRequest) (readings : PrepayReadings) :
    Prepays sha256 services tenantId request readings := by
  -- What keeps the intent service from asking Stripe leaves both loggers alone.
  have unasked : ∀ error, (PaymentIntentService.createIntent sha256 request readings.intent).run
      services.intentAudit = .error error services.intentAudit →
      (onlinePrepay sha256 tenantId request readings).run services = .error error services := by
    intro error raised
    rw [onlinePrepay, EStateM.run_bind, overIntents, Run.run_zoom_error raised]
  cases built : PaymentIntentService.intentRequest request with
  | error error =>
    refine .refused error (by simp [taken, built, Except.toOption]) (unasked error ?_)
    unfold PaymentIntentService.intentRequest at built
    simp [PaymentIntentService.createIntent, PaymentIntentService.lift, built]
  | ok sent =>
    cases replied : readings.intent.stripe sent with
    | error error =>
      refine .refused error (by simp [taken, built, replied, Except.toOption]) (unasked error ?_)
      unfold PaymentIntentService.intentRequest at built
      simp [PaymentIntentService.createIntent, PaymentIntentService.lift, built, replied]
    | ok intent =>
      have took : taken (.onlinePrepay tenantId request readings) =
          some (request.orderId, intent.id) := by
        simp [taken, built, replied, Except.toOption]
      have created := PaymentIntentService.run_createIntent sha256 ⟨sent, built, replied⟩
        services.intentAudit
      cases read : PaymentStatus.read intent.status with
      | error error =>
        rw [read] at created
        refine .unreturned error intent took ?_
        rw [onlinePrepay, EStateM.run_bind, overIntents, Run.run_zoom_error created]
        rfl
      | ok status =>
        rw [read] at created
        obtain ⟨error, refused⟩ | accepted := store_cases services.flow.tokens
          (prepaidToken tenantId request readings intent.id)
        · refine .unreturned error intent took ?_
          simp [onlinePrepay, overIntents, Run.run_zoom_ok created,
            PaymentIntentService.responseFor, refused, afterLog]
        · refine .returned intent status took ?_
          simp [onlinePrepay, overIntents, Run.run_zoom_ok created,
            PaymentIntentService.responseFor, accepted, afterToken, afterLog]

end Outcomes

section Records

variable (sha256 : String → String)

/-- The facts that the stored tokens stand for, in the order in which they were stored. -/
def storedFacts (services : PaymentServices) : List PaymentFact :=
  services.flow.tokens.tokens.values.map PaymentToken.fact

/-- The facts that the log of the flow service tells of. -/
def toldFacts (services : PaymentServices) : List PaymentFact :=
  services.flow.audit.entries.filterMap AuditEntry.paymentFact?

/-- The intents that the log of the intent service tells of. -/
def createdIntents (services : PaymentServices) : List (String × String) :=
  services.intentAudit.entries.filterMap AuditEntry.createdIntent?

/-- The tokens found for an order stand for the facts that the store keeps for it. -/
theorem forOrder_facts (store : PaymentTokenStore) (tenantId orderId : String) :
    (store.forOrder tenantId orderId).map PaymentToken.fact =
      (store.tokens.values.map PaymentToken.fact).filter
        (PaymentFact.isReferencedFor tenantId orderId) := by
  rw [List.filter_map]
  rfl

/-- What a call leaves on record: the fact it acknowledged, and the payment that Stripe took. -/
structure Records (before : PaymentServices) (call : PaymentCall) (fact : Option PaymentFact)
    (after : PaymentServices) : Prop where
  stored : (∀ uuid, call.drawn = some uuid → before.flow.tokens.get uuid.toStr = none) →
    storedFacts after = storedFacts before ++ fact.toList.filter PaymentFact.isReferenced
  told : toldFacts after = toldFacts before ++ fact.toList.filter PaymentFact.isFlow
  created : createdIntents after = createdIntents before ++ (taken call).toList
  prepaid : ∀ prepayment, fact.bind PaymentFact.prepaid? = some prepayment →
    taken call = some prepayment
  /-- No token is stored under an id that the call did not draw. -/
  others : ∀ tokenId, (∀ uuid, call.drawn = some uuid → uuid.toStr ≠ tokenId) →
    after.flow.tokens.get tokenId = before.flow.tokens.get tokenId

/-- A call of the flows that raises leaves the store and the logs as they were. -/
theorem records_refused {before after : PaymentServices} {call : PaymentCall}
    (tokens : after.flow.tokens = before.flow.tokens) (audit : after.flow.audit = before.flow.audit)
    (intents : after.intentAudit = before.intentAudit) (untaken : taken call = none) :
    Records before call none after where
  stored _ := by simp [storedFacts, tokens]
  told := by simp [toldFacts, audit]
  created := by simp [createdIntents, intents, untaken]
  prepaid prepayment contradiction := by cases contradiction
  others tokenId _ := by rw [tokens]

/-- A token of the flows that was stored and logged is on record. -/
theorem records_stored {services : PaymentServices} {call : PaymentCall} {token : PaymentToken}
    {stamp : Stamp} {record : LogCall JsonObject} {uuid : Uuid}
    (drawn : call.drawn = some uuid) (named : token.tokenId = uuid.toStr)
    (flow : token.fact.isFlow = true) (untaken : taken call = none)
    (tells : PaymentFact.told? record.eventType record.transactionRef
      (record.details.getD SortedMap.empty) = some token.fact) :
    Records services call (some token.fact)
      { services with
        flow := PaymentFlowService.stored sha256 services.flow token stamp record } where
  stored fresh := by
    have absent : services.flow.tokens.tokens.get? token.tokenId = none := by
      rw [named]
      exact fresh uuid drawn
    show (services.flow.tokens.tokens.set token.tokenId token).values.map PaymentToken.fact = _
    rw [Dict.values_set_of_absent absent, List.map_append]
    rfl
  told := by
    show (services.flow.audit.log sha256 stamp record).entries.filterMap AuditEntry.paymentFact? = _
    rw [AuditLogger.filterMap_log]
    have same : AuditEntry.paymentFact? (services.flow.audit.entryFor stamp record
        (record.details.getD SortedMap.empty)) = some token.fact := tells
    simp [same, flow, toldFacts]
  created := by simp [createdIntents, untaken]
  prepaid prepayment prepaid := by
    have unpaid : token.fact.prepaid? = none := Option.isNone_iff_eq_none.mp flow
    rw [Option.bind_some, unpaid] at prepaid
    cases prepaid
  others tokenId apart := by
    show (services.flow.tokens.tokens.set token.tokenId token).get? tokenId = _
    rw [Dict.get?_set_of_ne]
    · rfl
    · rw [named]
      exact (apart uuid drawn).symm

/-- The record of an authorization tells of its token. -/
theorem told_authorized (request : AuthorizeRequest) (readings : AuthorizeReadings)
    (intent : StripeSetupIntent) :
    PaymentFact.told? (authorizedCall request intent).eventType
      (authorizedCall request intent).transactionRef
      ((authorizedCall request intent).details.getD SortedMap.empty) =
        some (authorizedToken request readings intent).fact := by
  simp [authorizedCall, PaymentFact.told?, detailText?, SortedMap.ofList, SortedMap.get?_set_of_ne,
    JsonValue.str, authorizedToken, PaymentToken.new, PaymentToken.fact]

/-- So does the record of a receipt. -/
theorem told_inPerson (tenantId orderId receiptRef : String) (stamp : Stamp) :
    PaymentFact.told? (inPersonCall tenantId orderId receiptRef).eventType
      (inPersonCall tenantId orderId receiptRef).transactionRef
      ((inPersonCall tenantId orderId receiptRef).details.getD SortedMap.empty) =
        some (PaymentToken.new tenantId orderId receiptRef .receiptRef stamp).fact := by
  simp [inPersonCall, PaymentFact.told?, detailText?, SortedMap.ofList, SortedMap.get?_set_of_ne,
    JsonValue.str, PaymentToken.new, PaymentToken.fact]

/-- The record of a charge tells how it ended. -/
theorem told_charged (token : PaymentToken) (request : ChargeRequest)
    (intent : StripePaymentIntent) :
    PaymentFact.told? (chargedCall token request intent).eventType
      (chargedCall token request intent).transactionRef
      ((chargedCall token request intent).details.getD SortedMap.empty) =
        some (.charged token.tenantId token.orderId intent.id intent.status
          request.amountCents) := by
  simp [chargedCall, PaymentFact.told?, detailText?, detailInt?, SortedMap.ofList,
    SortedMap.get?_set_of_ne, JsonValue.str, JsonValue.int]

/-- The record of an intent tells of its order. -/
theorem created_prepaid (request : PaymentIntentRequest) (intent : StripePaymentIntent) :
    PaymentFact.created? (PaymentIntentService.createdCall request intent).eventType
      (PaymentIntentService.createdCall request intent).transactionRef
      ((PaymentIntentService.createdCall request intent).details.getD SortedMap.empty) =
        some (request.orderId, intent.id) := by
  simp [PaymentIntentService.createdCall, PaymentFact.created?, detailText?, SortedMap.ofList,
    SortedMap.get?_set_of_ne, JsonValue.str]

/-- Logging an intent tells of it and of nothing else. -/
theorem createdIntents_afterLog (services : PaymentServices) (request : PaymentIntentRequest)
    (readings : PrepayReadings) (intent : StripePaymentIntent) :
    createdIntents (afterLog sha256 services request readings intent) =
      createdIntents services ++ [(request.orderId, intent.id)] := by
  show (services.intentAudit.log sha256 readings.intent.stamp
    (PaymentIntentService.createdCall request intent)).entries.filterMap
      AuditEntry.createdIntent? = _
  rw [AuditLogger.filterMap_log]
  exact congrArg (createdIntents services ++ ·)
    (congrArg Option.toList (created_prepaid request intent))

/-- A prepayment leaves its records, however it ends. -/
theorem Prepays.records {services : PaymentServices} {tenantId : String}
    {request : PaymentIntentRequest} {readings : PrepayReadings}
    (prepays : Prepays sha256 services tenantId request readings) :
    Records services (.onlinePrepay tenantId request readings)
      (acknowledged sha256 services (.onlinePrepay tenantId request readings))
      (afterCall sha256 services (.onlinePrepay tenantId request readings)) := by
  rw [acknowledged, afterCall]
  cases prepays with
  | refused error untaken raised =>
    rw [resultOf_error raised, stateAfter_error raised]
    exact records_refused rfl rfl rfl untaken
  | unreturned error intent took raised =>
    rw [resultOf_error raised, stateAfter_error raised]
    refine ⟨fun _ => (List.append_nil _).symm, (List.append_nil _).symm, ?_, ?_, fun _ _ => rfl⟩
    · rw [createdIntents_afterLog, took]
      rfl
    · intro prepayment contradiction
      cases contradiction
  | returned intent status took returns =>
    rw [resultOf_ok returns, stateAfter_ok returns]
    refine ⟨fun fresh => ?_, (List.append_nil _).symm, ?_, ?_, fun tokenId apart => ?_⟩
    · have absent : services.flow.tokens.tokens.get?
          (prepaidToken tenantId request readings intent.id).tokenId = none :=
        fresh readings.tokenStamp.uuid rfl
      show (services.flow.tokens.tokens.set _ (prepaidToken tenantId request readings
        intent.id)).values.map PaymentToken.fact = _
      rw [Dict.values_set_of_absent absent, List.map_append]
      rfl
    · rw [took]
      exact createdIntents_afterLog sha256 services request readings intent
    · intro prepayment prepaid
      rw [took]
      exact prepaid
    · show (services.flow.tokens.tokens.set readings.tokenStamp.uuid.toStr _).get? tokenId = _
      rw [Dict.get?_set_of_ne]
      · rfl
      · exact (apart readings.tokenStamp.uuid rfl).symm

/-- Every call leaves its records, whether it returns or raises. -/
theorem records_afterCall (services : PaymentServices) (call : PaymentCall) :
    Records services call (acknowledged sha256 services call)
      (afterCall sha256 services call) := by
  cases call with
  | onlinePrepay tenantId request readings =>
    exact (onlinePrepay_cases sha256 services tenantId request readings).records
  | authorizeDeferred request readings =>
    rw [acknowledged, afterCall]
    obtain ⟨error, raised⟩ | ⟨intent, returned⟩ :=
      authorizeDeferred_cases sha256 services.flow request readings
    · have whole : (overFlow (authorizeDeferred sha256 request readings)).run services =
          .error error services := Run.run_zoom_error raised
      rw [resultOf_error whole, stateAfter_error whole]
      exact records_refused rfl rfl rfl rfl
    · have whole := @Run.run_zoom_ok _ _ _ _ PaymentServices.flow
        (fun services flow => { services with flow := flow }) _ services _ _ returned
      rw [overFlow, resultOf_ok whole, stateAfter_ok whole]
      exact records_stored sha256 rfl rfl rfl rfl (told_authorized request readings intent)
  | chargeDeferred token request readings =>
    rw [acknowledged, afterCall]
    obtain ⟨error, gateway, raised⟩ | ⟨intent, gateway, returned⟩ :=
      chargeDeferred_cases sha256 services.flow token request readings
    · have whole := @Run.run_zoom_error _ _ _ _ PaymentServices.flow
        (fun services flow => { services with flow := flow }) _ services _ _ raised
      rw [overFlow, resultOf_error whole, stateAfter_error whole]
      exact records_refused rfl rfl rfl rfl
    · have whole := @Run.run_zoom_ok _ _ _ _ PaymentServices.flow
        (fun services flow => { services with flow := flow }) _ services _ _ returned
      rw [overFlow, resultOf_ok whole, stateAfter_ok whole]
      -- A charge is told of and not stored.
      refine ⟨fun _ => (List.append_nil _).symm, ?_, (List.append_nil _).symm, ?_, fun _ _ => rfl⟩
      · show (services.flow.audit.log sha256 readings.auditStamp
          (chargedCall token request intent)).entries.filterMap AuditEntry.paymentFact? = _
        rw [AuditLogger.filterMap_log]
        exact congrArg (toldFacts services ++ ·)
          (congrArg Option.toList (told_charged token request intent))
      · intro prepayment contradiction
        cases contradiction
  | recordInPerson tenantId orderId receiptRef tokenStamp auditStamp =>
    rw [acknowledged, afterCall]
    obtain ⟨error, raised⟩ | returned := recordInPerson_cases sha256 services.flow tenantId orderId
      receiptRef tokenStamp auditStamp
    · have whole : (overFlow (recordInPerson sha256 tenantId orderId receiptRef tokenStamp
          auditStamp)).run services = .error error services := Run.run_zoom_error raised
      rw [resultOf_error whole, stateAfter_error whole]
      exact records_refused rfl rfl rfl rfl
    · have whole := @Run.run_zoom_ok _ _ _ _ PaymentServices.flow
        (fun services flow => { services with flow := flow }) _ services _ _ returned
      rw [overFlow, resultOf_ok whole, stateAfter_ok whole]
      exact records_stored sha256 rfl rfl rfl rfl
        (told_inPerson tenantId orderId receiptRef tokenStamp)

/-- The facts that a run acknowledges to its callers, oldest first. -/
def acknowledgedFacts (services : PaymentServices) (calls : List PaymentCall) : List PaymentFact :=
  (Run.outputs (afterCall sha256) (acknowledged sha256) services calls).reduceOption

/-- What the first call acknowledges comes first. -/
theorem acknowledgedFacts_cons (services : PaymentServices) (call : PaymentCall)
    (rest : List PaymentCall) :
    acknowledgedFacts sha256 services (call :: rest) =
      (acknowledged sha256 services call).toList ++
        acknowledgedFacts sha256 (afterCall sha256 services call) rest := by
  rw [acknowledgedFacts, Run.outputs]
  cases acknowledged sha256 services call with
  | none => exact List.reduceOption_cons_of_none _
  | some fact => exact List.reduceOption_cons_of_some fact _

/-- An acknowledged prepayment is the payment that Stripe took in its call. -/
theorem Records.prepaid_sublist {before after : PaymentServices} {call : PaymentCall}
    {fact : Option PaymentFact} (records : Records before call fact after) :
    (fact.toList.filterMap PaymentFact.prepaid?).Sublist (taken call).toList := by
  have prepaid := records.prepaid
  cases fact with
  | none => exact List.nil_sublist _
  | some fact =>
    cases told : fact.prepaid? with
    | none => simp [told]
    | some prepayment => simp [told, prepaid prepayment told]

/-- What a run of calls has left on record. -/
structure RunRecords (before : PaymentServices) (calls : List PaymentCall)
    (facts : List PaymentFact) (after : PaymentServices) : Prop where
  stored : storedFacts after = storedFacts before ++ facts.filter PaymentFact.isReferenced
  told : toldFacts after = toldFacts before ++ facts.filter PaymentFact.isFlow
  created : createdIntents after = createdIntents before ++ calls.filterMap taken
  prepaid : (facts.filterMap PaymentFact.prepaid?).Sublist (calls.filterMap taken)

/-- A run of calls that draw ids of their own leaves the records of all of them, in order. -/
theorem records_run {services : PaymentServices} {calls : List PaymentCall}
    (fresh : ∀ uuid ∈ calls.filterMap PaymentCall.drawn, services.flow.tokens.get uuid.toStr = none)
    (distinct : (calls.filterMap PaymentCall.drawn).Nodup) :
    RunRecords services calls (acknowledgedFacts sha256 services calls)
      (calls.foldl (afterCall sha256) services) := by
  -- One call at a time; the ids that are still to be drawn stay free.
  induction calls generalizing services with
  | nil =>
    exact ⟨(List.append_nil _).symm, (List.append_nil _).symm, (List.append_nil _).symm,
      List.Sublist.slnil⟩
  | cons call rest ih =>
    have records := records_afterCall sha256 services call
    have first : ∀ uuid, call.drawn = some uuid → services.flow.tokens.get uuid.toStr = none := by
      intro uuid drawn
      exact fresh uuid (List.mem_filterMap.mpr ⟨call, List.mem_cons_self, drawn⟩)
    have apart : ∀ drawn, call.drawn = some drawn → drawn ∉ rest.filterMap PaymentCall.drawn := by
      intro drawn own
      rw [List.filterMap_cons_some own] at distinct
      exact (List.nodup_cons.mp distinct).1
    have remaining : (rest.filterMap PaymentCall.drawn).Nodup :=
      distinct.sublist (List.Sublist.filterMap _ (List.sublist_cons_self call rest))
    have later := @ih (afterCall sha256 services call) (by
      intro uuid member
      rw [records.others]
      · obtain ⟨other, inside, drawn⟩ := List.mem_filterMap.mp member
        exact fresh uuid (List.mem_filterMap.mpr ⟨other, List.mem_cons_of_mem _ inside, drawn⟩)
      · intro drawn own same
        exact apart drawn own (Uuid.toStr_injective same ▸ member)) remaining
    have takings : (call :: rest).filterMap taken =
        (taken call).toList ++ rest.filterMap taken := by
      cases took : taken call with
      | none => rw [List.filterMap_cons_none took]; rfl
      | some prepayment => rw [List.filterMap_cons_some took]; rfl
    rw [acknowledgedFacts_cons, List.foldl_cons]
    constructor
    · rw [later.stored, records.stored first, List.filter_append, List.append_assoc]
    · rw [later.told, records.told, List.filter_append, List.append_assoc]
    · rw [later.created, records.created, takings, List.append_assoc]
    · rw [takings, List.filterMap_append]
      exact records.prepaid_sublist.append later.prepaid

end Records

/--
After every run of payment calls, the token store and the exported logs tell what the callers know.

The stored tokens are the acknowledged references, and so are the tokens found for an order.
The log of the flows tells of the acknowledged authorizations, receipts and charges.
The log of the intents tells of every payment that Stripe took, acknowledged or not.
-/
theorem payments_on_record (sha256 : String → String)
    (gateway : Idempotency.Server String DeferredCharge) {calls : List PaymentCall}
    (distinct : (calls.filterMap PaymentCall.drawn).Nodup) (stamps : Nat → Stamp) :
    let services := calls.foldl (afterCall sha256) (PaymentServices.fresh gateway)
    let facts := acknowledgedFacts sha256 (PaymentServices.fresh gateway) calls
    storedFacts services = facts.filter PaymentFact.isReferenced ∧
    (∀ tenantId orderId, (services.flow.tokens.forOrder tenantId orderId).map PaymentToken.fact =
      facts.filter (PaymentFact.isReferencedFor tenantId orderId)) ∧
    (∃ entries, readExport? stamps (exportEntriesJsonl services.flow.audit.entries) = some entries ∧
      entries.filterMap AuditEntry.paymentFact? = facts.filter PaymentFact.isFlow) ∧
    (∃ entries, readExport? stamps
        (exportEntriesJsonl services.intentAudit.entries) = some entries ∧
      entries.filterMap AuditEntry.createdIntent? = calls.filterMap taken) ∧
    (facts.filterMap PaymentFact.prepaid?).Sublist (calls.filterMap taken) := by
  intro services facts
  have records : RunRecords (PaymentServices.fresh gateway) calls facts services :=
    records_run sha256 (fun _ _ => rfl) distinct
  refine ⟨records.stored, fun tenantId orderId => ?_, ⟨_, readExport_export stamps _, records.told⟩,
    ⟨_, readExport_export stamps _, records.created⟩, records.prepaid⟩
  rw [forOrder_facts]
  show (storedFacts services).filter _ = _
  rw [records.stored]
  show (facts.filter PaymentFact.isReferenced).filter _ = _
  exact PaymentFact.filter_isReferencedFor tenantId orderId facts

/-- A prepayment, an authorization and a charge. -/
def sampleCalls : List PaymentCall :=
  [.onlinePrepay "t1" sampleRequest (sampleReadings "succeeded"),
    .authorizeDeferred { tenantId := "t1", orderId := "ORD-2", paymentMethodId := "pm_2" }
      ⟨fun _ => .ok ⟨"seti_1"⟩, ⟨⟨2, by decide⟩, Stamp.sample.moment⟩, Stamp.sample⟩,
    .chargeDeferred (.new "t1" "ORD-2" "seti_1" .setupIntent Stamp.sample)
      { amountCents := 5000, paymentMethodId := "pm_2" }
      ⟨fun _ => .ok ⟨"pi_2", "succeeded", 5000, "eur", none⟩, Stamp.sample⟩]

/-- Two of them draw an id, and the ids differ. -/
theorem payments_on_record_sample :
    let services := sampleCalls.foldl (afterCall id) (PaymentServices.fresh ⟨[], []⟩)
    let facts := acknowledgedFacts id (PaymentServices.fresh ⟨[], []⟩) sampleCalls
    storedFacts services = facts.filter PaymentFact.isReferenced ∧
    (∀ tenantId orderId, (services.flow.tokens.forOrder tenantId orderId).map PaymentToken.fact =
      facts.filter (PaymentFact.isReferencedFor tenantId orderId)) ∧
    (∃ entries, readExport? (fun _ => Stamp.sample)
        (exportEntriesJsonl services.flow.audit.entries) = some entries ∧
      entries.filterMap AuditEntry.paymentFact? = facts.filter PaymentFact.isFlow) ∧
    (∃ entries, readExport? (fun _ => Stamp.sample)
        (exportEntriesJsonl services.intentAudit.entries) = some entries ∧
      entries.filterMap AuditEntry.createdIntent? = sampleCalls.filterMap taken) ∧
    (facts.filterMap PaymentFact.prepaid?).Sublist (sampleCalls.filterMap taken) := by
  have distinct : (sampleCalls.filterMap PaymentCall.drawn).Nodup := by
    refine List.nodup_cons.mpr ⟨fun member => ?_, List.nodup_singleton _⟩
    have values := congrArg Uuid.value (List.mem_singleton.mp member)
    exact absurd values (by decide)
  exact payments_on_record id ⟨[], []⟩ distinct fun _ => Stamp.sample

end PaymentFlowService

end JolCommerce
