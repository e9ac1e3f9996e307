import JolCommerce.Payments.PaymentScenarios

/-! Whether a prepayment that Stripe took is recorded. -/

namespace JolCommerce

open Python

namespace PaymentStatus

/-- A text is read as a state exactly when it is the text of one. -/
theorem read_eq_ok_iff {text : String} :
    (∃ status, read text = .ok status) ↔ text ∈ all.map value := by
  -- The reader looks for a member with this text.
  unfold read readMember
  cases found : all.find? fun member => decide (value member = text) with
  | none =>
    refine iff_of_false (by simp) fun listed => ?_
    obtain ⟨status, member, same⟩ := List.mem_map.mp listed
    have missed := List.find?_eq_none.mp found status member
    exact missed (by simpa using same)
  | some status =>
    refine iff_of_true ⟨status, rfl⟩ (List.mem_map.mpr ⟨status, List.mem_of_find?_eq_some found, ?_⟩)
    simpa using List.find?_some found

end PaymentStatus

namespace PaymentIntentService

/-- The request that is sent for an intent. -/
def intentRequest (request : PaymentIntentRequest) : Except PyError (StripeRequest PaymentIntentParams) :=
  StripeClient.createPaymentIntent request.customerId request.idempotencyKey
    (some ((request.metadata.getD Dict.empty).set "order_id" request.orderId)) request.amountCents
    request.currency request.paymentMethodId

/-- Stripe took the payment of a request. -/
def Captured (request : PaymentIntentRequest) (readings : IntentReadings)
    (intent : StripePaymentIntent) : Prop :=
  ∃ sent, intentRequest request = .ok sent ∧ readings.stripe sent = .ok intent

/-- The response for an intent in a state of the enumeration. -/
def responseFor (request : PaymentIntentRequest) (readings : IntentReadings)
    (intent : StripePaymentIntent) (status : PaymentStatus) : PaymentIntentResponse where
  paymentIntentId := intent.id
  status := status
  amountCents := intent.amount
  currency := intent.currency
  orderId := request.orderId
  createdAt := readings.createdAt.isoformat
  clientSecret := intent.clientSecret

/-- A payment that was taken is logged, and then its state is read. -/
theorem run_createIntent (sha256 : String → String) {request : PaymentIntentRequest}
    {readings : IntentReadings} {intent : StripePaymentIntent}
    (captured : Captured request readings intent) (audit : AuditLogger) :
    (createIntent sha256 request readings).run audit =
      match PaymentStatus.read intent.status with
      | .ok status => .ok (responseFor request readings intent status)
          (audit.log sha256 readings.stamp (createdCall request intent))
      | .error error => .error error
          (audit.log sha256 readings.stamp (createdCall request intent)) := by
  -- The client has answered by now, so only the reading of the status can still raise.
  obtain ⟨sent, built, replied⟩ := captured
  unfold intentRequest at built
  cases read : PaymentStatus.read intent.status with
  | error error =>
    have raised : ∀ (respond : PaymentStatus → PaymentIntentResponse) (state : AuditLogger),
        EStateM.run (respond <$> (throw error : EStateM PyError AuditLogger PaymentStatus)) state =
          .error error state := fun _ _ => rfl
    simp [createIntent, lift, built, replied, read, raised]
  | ok status => simp [createIntent, lift, built, replied, read, responseFor]

end PaymentIntentService

namespace PaymentFlowService

open PaymentIntentService

/-- The entries that tell of the creation of an intent. -/
def createdEntries (audit : AuditLogger) (paymentIntentId : String) : List AuditEntry :=
  audit.entries.filter fun entry =>
    entry.eventType = "payment.created" && entry.transactionRef = paymentIntentId

/-- A reference that starts like an intent is no card number. -/
theorem assertZeroPan_intent {paymentIntentId : String}
    (named : "pi_".toList.isPrefixOf paymentIntentId.toList = true) :
    PaymentTokenStore.assertZeroPan paymentIntentId = .ok () := by
  -- Its first letter is neither a digit nor a blank.
  obtain ⟨rest, text⟩ := List.isPrefixOf_iff_prefix.mp named
  have letter : isDigit 'p' = false := by decide +kernel
  have refused : (paymentIntentId.toList.filter fun char => char ≠ ' ').all isDigit = false := by
    rw [← text]
    simp [letter]
  rw [PaymentTokenStore.assertZeroPan, if_neg]
  rintro ⟨-, -, digits⟩
  rw [refused] at digits
  cases digits

/-- What a prepayment leaves behind: a response, one entry for the intent, one token for the order. -/
structure Recorded (sha256 : String → String) (services : PaymentServices) (tenantId : String)
    (request : PaymentIntentRequest) (readings : PrepayReadings) (intent : StripePaymentIntent) :
    Prop where
  returned : ∃ response after,
    (onlinePrepay sha256 tenantId request readings).run services = .ok response after ∧
      response.paymentIntentId = intent.id
  entry : ∃ entry, createdEntries
      (stateAfter (onlinePrepay sha256 tenantId request readings) services).intentAudit intent.id =
    createdEntries services.intentAudit intent.id ++ [entry]
  /-- An identifier that was drawn for the first time adds the token to the others. -/
  token : ∃ token : PaymentToken, token.gatewayRef = intent.id ∧ token.tenantId = tenantId ∧
    token.orderId = request.orderId ∧
    (stateAfter (onlinePrepay sha256 tenantId request readings) services).flow.tokens.tokens =
      services.flow.tokens.tokens.set token.tokenId token ∧
    (services.flow.tokens.get token.tokenId = none →
      (stateAfter (onlinePrepay sha256 tenantId request readings) services).flow.tokens.tokens.values =
        services.flow.tokens.tokens.values ++ [token])

variable {request : PaymentIntentRequest} {readings : PrepayReadings}
  {intent : StripePaymentIntent}

/-- The services once an intent is logged. -/
def afterLog (sha256 : String → String) (services : PaymentServices) (request : PaymentIntentRequest)
    (readings : PrepayReadings) (intent : StripePaymentIntent) : PaymentServices :=
  { services with
    intentAudit := services.intentAudit.log sha256 readings.intent.stamp
      (createdCall request intent) }

/-- The services once its token is stored as well. -/
def afterToken (sha256 : String → String) (services : PaymentServices) (tenantId : String)
    (request : PaymentIntentRequest) (readings : PrepayReadings) (intent : StripePaymentIntent) :
    PaymentServices :=
  let token := prepaidToken tenantId request readings intent.id
  { afterLog sha256 services request readings intent with
    flow := { services.flow with tokens := ⟨services.flow.tokens.tokens.set token.tokenId token⟩ } }

/-- A prepayment that Stripe took is stored if its state is known, and raises after the log if not. -/
theorem run_onlinePrepay (sha256 : String → String) (captured : Captured request readings.intent intent)
    (named : "pi_".toList.isPrefixOf intent.id.toList = true) (services : PaymentServices)
    (tenantId : String) :
    (onlinePrepay sha256 tenantId request readings).run services =
      match PaymentStatus.read intent.status with
      | .ok status => .ok (responseFor request readings.intent intent status)
          (afterToken sha256 services tenantId request readings intent)
      | .error error => .error error (afterLog sha256 services request readings intent) := by
  -- The log is written before the status is read, and the token after it.
  have created := run_createIntent sha256 captured services.intentAudit
  rw [onlinePrepay, EStateM.run_bind]
  cases read : PaymentStatus.read intent.status with
  | error error =>
    rw [read] at created
    rw [overIntents, Run.run_zoom_error created]
    rfl
  | ok status =>
    have checks : services.flow.tokens.store (prepaidToken tenantId request readings intent.id) =
        .ok ⟨services.flow.tokens.tokens.set
          (prepaidToken tenantId request readings intent.id).tokenId
          (prepaidToken tenantId request readings intent.id)⟩ := by
      have accepted : PaymentTokenStore.assertZeroPan
          (prepaidToken tenantId request readings intent.id).gatewayRef = .ok () :=
        assertZeroPan_intent named
      rw [PaymentTokenStore.store, accepted]
      rfl
    rw [read] at created
    rw [overIntents, Run.run_zoom_ok created]
    simp [responseFor, checks, afterToken, afterLog]

/-- Logging a creation adds one entry for its intent. -/
theorem createdEntries_log (sha256 : String → String) (audit : AuditLogger) (stamp : Stamp) :
    ∃ entry, createdEntries (audit.log sha256 stamp (createdCall request intent)) intent.id =
      createdEntries audit intent.id ++ [entry] := by
  refine ⟨audit.entryFor stamp (createdCall request intent)
    ((createdCall request intent).details.getD SortedMap.empty), ?_⟩
  simp [createdEntries, AuditLogger.log, AuditLoggerOf.append, AuditLoggerOf.entryFor, createdCall]

/-- A prepayment that Stripe took is recorded exactly when the enumeration has its state. -/
theorem prepayment_recorded_iff (sha256 : String → String) (services : PaymentServices)
    (tenantId : String) (captured : Captured request readings.intent intent)
    (named : "pi_".toList.isPrefixOf intent.id.toList = true) :
    Recorded sha256 services tenantId request readings intent ↔
      intent.status ∈ PaymentStatus.all.map PaymentStatus.value := by
  -- Everything behind the reading of the status succeeds, so that the status alone decides.
  have ran := run_onlinePrepay sha256 captured named services tenantId
  rw [← PaymentStatus.read_eq_ok_iff]
  cases read : PaymentStatus.read intent.status with
  | error error =>
    rw [read] at ran
    refine iff_of_false (fun recorded => ?_) (by simp)
    obtain ⟨response, after, returned, -⟩ := recorded.returned
    rw [ran] at returned
    cases returned
  | ok status =>
    rw [read] at ran
    refine iff_of_true ⟨⟨_, _, ran, rfl⟩, ?_, ?_⟩ ⟨status, rfl⟩
    · rw [stateAfter_ok ran]
      exact createdEntries_log sha256 services.intentAudit readings.intent.stamp
    · rw [stateAfter_ok ran]
      refine ⟨prepaidToken tenantId request readings intent.id, rfl, rfl, rfl, rfl, fun fresh => ?_⟩
      exact Dict.values_set_of_absent fresh _

/-- A prepayment of a hundred euros. -/
def sampleRequest : PaymentIntentRequest :=
  { amountCents := 10000, currency := "eur", paymentMethodId := "pm_1", orderId := "ORD-1" }

/-- Stripe answering with an intent in a state. -/
def sampleReadings (status : String) : PrepayReadings :=
  ⟨⟨fun _ => .ok ⟨"pi_1", status, 10000, "eur", none⟩, Stamp.sample, Stamp.sample.moment⟩,
    Stamp.sample⟩

/-- Services without any token or entry. -/
def sampleServices : PaymentServices :=
  ⟨⟨PaymentTokenStore.new, AuditLoggerOf.new, ⟨[], []⟩⟩, AuditLoggerOf.new⟩

/-- Stripe takes the payment. -/
theorem sample_captured (status : String) :
    Captured sampleRequest (sampleReadings status).intent ⟨"pi_1", status, 10000, "eur", none⟩ :=
  ⟨_, rfl, rfl⟩

/-- A payment that succeeded at once is recorded. -/
theorem prepayment_recorded_succeeded :
    Recorded id sampleServices "t1" sampleRequest (sampleReadings "succeeded")
      ⟨"pi_1", "succeeded", 10000, "eur", none⟩ := by
  refine (prepayment_recorded_iff id sampleServices "t1" (sample_captured "succeeded") ?_).mpr ?_
  · decide
  · decide

/-- One that is to be captured later is not. -/
theorem prepayment_unrecorded_requires_capture :
    Captured sampleRequest (sampleReadings "requires_capture").intent
        ⟨"pi_1", "requires_capture", 10000, "eur", none⟩ ∧
      ¬Recorded id sampleServices "t1" sampleRequest (sampleReadings "requires_capture")
        ⟨"pi_1", "requires_capture", 10000, "eur", none⟩ := by
  refine ⟨sample_captured "requires_capture", fun recorded => ?_⟩
  obtain ⟨response, after, returned, -⟩ := recorded.returned
  rw [run_onlinePrepay id (sample_captured "requires_capture") (by decide)] at returned
  -- Reading the state raises.
  cases returned

end PaymentFlowService

end JolCommerce
