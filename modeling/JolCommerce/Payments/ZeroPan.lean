import JolCommerce.Audit.PiiSafeLog
import JolCommerce.Payments.ChargedOnce
import JolCommerce.Payments.Prepayment

/-! Which references the two detectors of card numbers keep out of the token store. -/

namespace JolCommerce

open Python Regex

/-- A call that may store a reference. -/
inductive TokenCall where
  | store (token : PaymentToken)
  | recordInPerson (tenantId orderId receiptRef : String) (tokenStamp auditStamp : Stamp)
  | authorizeDeferred (request : AuthorizeRequest) (readings : AuthorizeReadings)
  | onlinePrepay (tenantId : String) (request : PaymentIntentRequest) (readings : PrepayReadings)

namespace PaymentTokenStore

/-- The store after an attempt to store a token, whether it was accepted or not. -/
def attempt (store : PaymentTokenStore) (token : PaymentToken) : PaymentTokenStore :=
  match store.store token with
  | .ok stored => stored
  | .error _ => store

/-- No stored reference is flagged by the detector of card numbers. -/
def ZeroPan (letter : Char → Bool) (store : PaymentTokenStore) : Prop :=
  ∀ token, store.Holds token → containsPan letter token.gatewayRef = false

/-- Nothing but digits and blanks, no more digits than a card number has. -/
def BareNumber (reference : String) : Prop :=
  (reference.toList.filter fun char => char ≠ ' ').all isDigit = true ∧
    (reference.toList.filter isDigit).length ≤ 19

/-- A flagged reference has at least thirteen digits. -/
theorem thirteen_digits {letter : Char → Bool} {reference : String}
    (flagged : containsPan letter reference = true) :
    13 ≤ (reference.toList.filter isDigit).length := by
  -- Otherwise no part of it would match.
  by_contra few
  have clean : panPattern.Clean (isWord letter) none reference.toList := by
    intro before taken rest cut matched
    obtain ⟨-, ⟨digits, more, rfl, spells, rfl⟩, -⟩ := delimited_matches_iff.mp matched
    have found : digits.filter isDigit = digits := by
      rw [List.filter_eq_self]
      exact fun char member => isDigit_ascii (spells.accepted char member)
    have long := spells.least
    rw [cut, List.filter_append, List.filter_append, List.append_nil, found, List.length_append,
      List.length_append] at few
    dsimp only at long
    omega
  have missed : containsPan letter reference = false := Pattern.search_eq_false_iff.mpr clean
  rw [missed] at flagged
  cases flagged

/-- A flagged reference is rejected exactly when it is a bare number. -/
theorem rejected_iff_bareNumber {letter : Char → Bool} {reference : String}
    (flagged : containsPan letter reference = true) :
    (∃ error, assertZeroPan reference = .error error) ↔ BareNumber reference := by
  -- A flagged reference has thirteen digits at least, so that only the other two checks are left.
  have enough := thirteen_digits flagged
  unfold assertZeroPan BareNumber
  dsimp only
  split
  · rename_i rejected
    exact iff_of_true ⟨_, rfl⟩ ⟨rejected.2.2, rejected.2.1⟩
  · rename_i accepted
    refine iff_of_false (by simp) fun bare => ?_
    exact accepted ⟨enough, bare.2, bare.1⟩

end PaymentTokenStore

namespace PaymentFlowService

/-- The services after a call, whether it returned or raised. -/
def callStep (sha256 : String → String) (services : PaymentServices) : TokenCall → PaymentServices
  | .store token =>
    { services with flow := { services.flow with tokens := services.flow.tokens.attempt token } }
  | .recordInPerson tenantId orderId receiptRef tokenStamp auditStamp =>
    stateAfter (overFlow (recordInPerson sha256 tenantId orderId receiptRef tokenStamp auditStamp))
      services
  | .authorizeDeferred request readings =>
    stateAfter (overFlow (authorizeDeferred sha256 request readings)) services
  | .onlinePrepay tenantId request readings =>
    stateAfter (onlinePrepay sha256 tenantId request readings) services

/-- The token that a call hands to the store, if it gets that far. -/
def offered : TokenCall → Except PyError PaymentToken
  | .store token => .ok token
  | .recordInPerson tenantId orderId receiptRef tokenStamp _ =>
    if receiptRef = "" then
      .error (.valueError "receipt_ref is required for in-person settlement")
    else .ok (.new tenantId orderId receiptRef .receiptRef tokenStamp)
  | .authorizeDeferred request readings => do
    let sent ← setupRequest request
    let intent ← readings.stripe sent
    return authorizedToken request readings intent
  | .onlinePrepay tenantId request readings => do
    let sent ← PaymentIntentService.intentRequest request
    let intent ← readings.intent.stripe sent
    let _ ← PaymentStatus.read intent.status
    return prepaidToken tenantId request readings intent.id

/-- A flow over the services leaves the tokens as it leaves them on its own. -/
theorem tokens_overFlow {α : Type} (code : FlowM α) (services : PaymentServices) :
    (stateAfter (overFlow code) services).flow.tokens = (stateAfter code services.flow).tokens := by
  -- Either way to end replaces the flow and nothing else.
  cases ran : code.run services.flow with
  | ok value after =>
    have whole : (overFlow code).run services = .ok value { services with flow := after } :=
      Run.run_zoom_ok ran
    rw [stateAfter_ok whole, stateAfter_ok ran]
  | error error after =>
    have whole : (overFlow code).run services = .error error { services with flow := after } :=
      Run.run_zoom_error ran
    rw [stateAfter_error whole, stateAfter_error ran]

/-- A receipt is one attempt to store its reference, unless there is none. -/
theorem tokens_recordInPerson (sha256 : String → String) (tenantId orderId receiptRef : String)
    (tokenStamp auditStamp : Stamp) (state : FlowState) :
    (stateAfter (recordInPerson sha256 tenantId orderId receiptRef tokenStamp auditStamp)
        state).tokens =
      match offered (.recordInPerson tenantId orderId receiptRef tokenStamp auditStamp) with
      | .ok token => state.tokens.attempt token
      | .error _ => state.tokens := by
  by_cases missing : receiptRef = ""
  · simp [recordInPerson, offered, missing, stateAfter]
  · cases stores : state.tokens.store (.new tenantId orderId receiptRef .receiptRef tokenStamp) with
    | error error =>
      simp [recordInPerson, offered, missing, stateAfter, stores, PaymentTokenStore.attempt]
    | ok tokens =>
      simp [recordInPerson, offered, missing, stateAfter, stores, PaymentTokenStore.attempt]

/-- So is an authorization that Stripe grants. -/
theorem tokens_authorizeDeferred (sha256 : String → String) (request : AuthorizeRequest)
    (readings : AuthorizeReadings) (state : FlowState) :
    (stateAfter (authorizeDeferred sha256 request readings) state).tokens =
      match offered (.authorizeDeferred request readings) with
      | .ok token => state.tokens.attempt token
      | .error _ => state.tokens := by
  -- A failure before the store offers no token, and one behind it does not exist.
  cases built : setupRequest request with
  | error error => simp [authorizeDeferred, offered, built, stateAfter]
  | ok sent =>
    cases replied : readings.stripe sent with
    | error error => simp [authorizeDeferred, offered, built, replied, stateAfter]
    | ok intent =>
      cases stores : state.tokens.store (authorizedToken request readings intent) with
      | error error =>
        simp [authorizeDeferred, offered, built, replied, stateAfter, stores,
          PaymentTokenStore.attempt]
      | ok tokens =>
        simp [authorizeDeferred, offered, built, replied, stateAfter, stores,
          PaymentTokenStore.attempt]

/-- And a prepayment whose intent is returned. -/
theorem tokens_onlinePrepay (sha256 : String → String) (tenantId : String)
    (request : PaymentIntentRequest) (readings : PrepayReadings) (services : PaymentServices) :
    (stateAfter (onlinePrepay sha256 tenantId request readings) services).flow.tokens =
      match offered (.onlinePrepay tenantId request readings) with
      | .ok token => services.flow.tokens.attempt token
      | .error _ => services.flow.tokens := by
  -- A call that raises before the store is asked leaves the flow alone.
  have raised : ∀ error audit, (PaymentIntentService.createIntent sha256 request readings.intent).run
      services.intentAudit = .error error audit →
      (stateAfter (onlinePrepay sha256 tenantId request readings) services).flow.tokens =
        services.flow.tokens := by
    intro error audit created
    have whole : (onlinePrepay sha256 tenantId request readings).run services =
        .error error { services with intentAudit := audit } := by
      rw [onlinePrepay, EStateM.run_bind, overIntents, Run.run_zoom_error created]
    rw [stateAfter_error whole]
  cases built : PaymentIntentService.intentRequest request with
  | error error =>
    have created := raised error services.intentAudit
    unfold PaymentIntentService.intentRequest at built
    simp only [offered, PaymentIntentService.intentRequest, built, error_bind]
    exact created (by simp [PaymentIntentService.createIntent, PaymentIntentService.lift, built])
  | ok sent =>
    cases replied : readings.intent.stripe sent with
    | error error =>
      have created := raised error services.intentAudit
      simp only [offered, built, replied, ok_bind, error_bind]
      unfold PaymentIntentService.intentRequest at built
      exact created
        (by simp [PaymentIntentService.createIntent, PaymentIntentService.lift, built, replied])
    | ok intent =>
      have created := PaymentIntentService.run_createIntent sha256 ⟨sent, built, replied⟩
        services.intentAudit
      cases read : PaymentStatus.read intent.status with
      | error error =>
        rw [read] at created
        simp only [offered, built, replied, read, ok_bind, error_bind]
        exact raised error _ created
      | ok status =>
        rw [read] at created
        simp only [offered, built, replied, read, ok_bind, pure_eq]
        cases stores : services.flow.tokens.store (prepaidToken tenantId request readings intent.id) with
        | error error =>
          simp [stateAfter, onlinePrepay, overIntents, Run.run_zoom_ok created,
            PaymentIntentService.responseFor, stores, PaymentTokenStore.attempt]
        | ok tokens =>
          simp [stateAfter, onlinePrepay, overIntents, Run.run_zoom_ok created,
            PaymentIntentService.responseFor, stores, PaymentTokenStore.attempt]

/-- Every call leaves the store as its one attempt to store a token leaves it. -/
theorem tokens_callStep (sha256 : String → String) (services : PaymentServices) (call : TokenCall) :
    (callStep sha256 services call).flow.tokens =
      match offered call with
      | .ok token => services.flow.tokens.attempt token
      | .error _ => services.flow.tokens := by
  -- Each kind of call offers the store at most one token.
  cases call with
  | store token => rfl
  | recordInPerson tenantId orderId receiptRef tokenStamp auditStamp =>
    rw [callStep, tokens_overFlow, tokens_recordInPerson]
  | authorizeDeferred request readings =>
    rw [callStep, tokens_overFlow, tokens_authorizeDeferred]
  | onlinePrepay tenantId request readings =>
    rw [callStep, tokens_onlinePrepay]

/-- A call hands the store no flagged reference that is more than a bare number. -/
def Caught (letter : Char → Bool) (call : TokenCall) : Prop :=
  ∀ token, offered call = .ok token → containsPan letter token.gatewayRef = true →
    PaymentTokenStore.BareNumber token.gatewayRef

/-- One call keeps flagged references out exactly when it offers none, or a bare number. -/
theorem zeroPan_callStep_iff {letter : Char → Bool} (sha256 : String → String)
    {services : PaymentServices} (clean : services.flow.tokens.ZeroPan letter) (call : TokenCall) :
    (callStep sha256 services call).flow.tokens.ZeroPan letter ↔ Caught letter call := by
  rw [tokens_callStep]
  cases offers : offered call with
  | error error => exact iff_of_true clean fun token offered => by rw [offers] at offered; cases offered
  | ok token =>
    have caught : Caught letter call ↔ (containsPan letter token.gatewayRef = true →
        PaymentTokenStore.BareNumber token.gatewayRef) := by
      simp [Caught, offers]
    rw [caught]
    dsimp only
    unfold PaymentTokenStore.attempt
    cases checked : PaymentTokenStore.assertZeroPan token.gatewayRef with
    | error error =>
      have kept : services.flow.tokens.store token = .error error := by
        rw [PaymentTokenStore.store, checked, error_bind]
      rw [kept]
      exact iff_of_true clean fun flagged =>
        (PaymentTokenStore.rejected_iff_bareNumber flagged).mp ⟨error, checked⟩
    | ok _ =>
      have stored : services.flow.tokens.store token =
          .ok ⟨services.flow.tokens.tokens.set token.tokenId token⟩ := by
        rw [PaymentTokenStore.store, checked, ok_bind, pure_eq]
      rw [stored]
      constructor
      · intro zero flagged
        -- The token is read back under its own id.
        have missed := zero token ⟨token.tokenId, Dict.get?_set_self _ _ _⟩
        rw [missed] at flagged
        cases flagged
      · intro bare other holds
        rcases holds_set holds with rfl | held
        · by_contra flagged
          rw [Bool.not_eq_false] at flagged
          obtain ⟨error, rejected⟩ :=
            (PaymentTokenStore.rejected_iff_bareNumber flagged).mpr (bare flagged)
          rw [checked] at rejected
          cases rejected
        · exact clean other held

/--
Flagged references stay out of the store throughout a run exactly when every one that a call of the run
offers is a bare number. A reference that is rejected leaves the store as it was, in any case.
-/
theorem zero_pan_iff (letter : Char → Bool) (sha256 : String → String) (services : PaymentServices)
    (initial : services.flow.tokens = PaymentTokenStore.new) (calls : List TokenCall) :
    (Run.Always (callStep sha256) (fun services => services.flow.tokens.ZeroPan letter) services calls ↔
        ∀ call ∈ calls, Caught letter call) ∧
      ∀ (state : PaymentServices) (call : TokenCall) (token : PaymentToken) (error : PyError),
        offered call = .ok token → state.flow.tokens.store token = .error error →
          (callStep sha256 state call).flow.tokens = state.flow.tokens := by
  -- A step keeps a clean store clean exactly when its own call is caught.
  constructor
  · have empty : services.flow.tokens.ZeroPan letter := by
      rintro token ⟨tokenId, held⟩
      simp [initial, PaymentTokenStore.get, PaymentTokenStore.new] at held
    rw [← Run.allSteps_iff_forall (callStep sha256) (Caught letter) services calls]
    refine Run.always_iff_allSteps (callStep sha256) (fun state call clean _ => ?_) empty
      (Run.allSteps_of_forall (callStep sha256) (fun _ _ => trivial) services)
    exact zeroPan_callStep_iff sha256 clean call
  · intro state call token error offers rejected
    rw [tokens_callStep, offers]
    simp [PaymentTokenStore.attempt, rejected]

/-- A terminal receipt. -/
def sampleReceipt (receiptRef : String) : TokenCall :=
  .recordInPerson "t1" "ORD-1" receiptRef Stamp.sample Stamp.sample

/-- A receipt number is stored and a bare card number is not. -/
theorem zero_pan_receipt :
    Run.Always (callStep id) (fun services => services.flow.tokens.ZeroPan fun _ => false)
      sampleServices [sampleReceipt "RCP-1", sampleReceipt "4111 1111 1111 1111"] := by
  refine (zero_pan_iff (fun _ => false) id sampleServices rfl _).1.mpr fun call member => ?_
  -- No group of digits is long enough to be flagged.
  have plain : ∀ receiptRef : String, receiptRef ≠ "" →
      containsPan (fun _ => false) receiptRef = false →
      Caught (fun _ => false) (sampleReceipt receiptRef) := by
    intro receiptRef given missed token offers flagged
    simp only [sampleReceipt, offered, given, ↓reduceIte, Except.ok.injEq] at offers
    subst offers
    rw [PaymentToken.new, missed] at flagged
    cases flagged
  simp only [List.mem_cons, List.not_mem_nil, or_false] at member
  rcases member with rfl | rfl
  · exact plain _ (by decide) (by decide +kernel)
  · exact plain _ (by decide) (by decide +kernel)

/-- A card number behind a word is stored. -/
theorem labelled_number_stored :
    ¬Run.Always (callStep id) (fun services => services.flow.tokens.ZeroPan fun _ => false)
      sampleServices [sampleReceipt "RCPT 4111111111111111"] := by
  rintro ⟨-, last⟩
  have stored : (callStep id sampleServices (sampleReceipt "RCPT 4111111111111111")).flow.tokens.Holds
      (.new "t1" "ORD-1" "RCPT 4111111111111111" .receiptRef Stamp.sample) :=
    ⟨Stamp.sample.uuid.toStr, by decide +kernel⟩
  have missed := last _ stored
  exact absurd missed (by decide +kernel)

end PaymentFlowService

end JolCommerce
