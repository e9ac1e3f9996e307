import JolCommerce.Payments.PaymentFlows
import JolCommerce.Run.Invariant

/-! How often a stored token is charged: only what the caller does about keys limits it. -/

namespace JolCommerce

open Python

namespace FlowState

/-- How many charges Stripe performed for a token. -/
def chargesOf (state : FlowState) (token : PaymentToken) : Nat :=
  state.gateway.performed fun charge => decide (charge.token = token)

/-- Every stored SetupIntent token was charged at most once. -/
def ChargedAtMostOnce (state : FlowState) : Prop :=
  ∀ token, state.tokens.Holds token → token.tokenType = .setupIntent → state.chargesOf token ≤ 1

end FlowState

/-- A call of the service. -/
inductive FlowCall where
  | authorizeDeferred (request : AuthorizeRequest) (readings : AuthorizeReadings)
  | chargeDeferred (token : PaymentToken) (request : ChargeRequest) (readings : ChargeReadings)

namespace PaymentFlowService

/-- The service and the gateway after a call, whether it returned or raised. -/
def step (sha256 : String → String) (state : FlowState) : FlowCall → FlowState
  | .authorizeDeferred request readings =>
    stateAfter (authorizeDeferred sha256 request readings) state
  | .chargeDeferred token request readings =>
    stateAfter (chargeDeferred sha256 token request readings) state

/-- The token that an authorization stores, or what keeps it from storing one. -/
def authorization (request : AuthorizeRequest) (readings : AuthorizeReadings) :
    Except PyError PaymentToken := do
  let sent ← setupRequest request
  let intent ← readings.stripe sent
  PaymentTokenStore.assertZeroPan intent.id
  return authorizedToken request readings intent

/-- A charge reaches Stripe: the token and the payment method are of the right kinds. -/
def Reaches (token : PaymentToken) (request : ChargeRequest) : Prop :=
  token.tokenType = .setupIntent ∧ StripeClient.requireToken request.paymentMethodId = .ok ()

/-- Everything a call can do to the tokens and to the gateway. -/
inductive FlowEffect (state : FlowState) : FlowCall → FlowState → Prop where
  | unauthorized (request : AuthorizeRequest) (readings : AuthorizeReadings)
    (error : PyError) (refused : authorization request readings = .error error) :
    FlowEffect state (.authorizeDeferred request readings) state
  | authorized (request : AuthorizeRequest) (readings : AuthorizeReadings) (token : PaymentToken)
    (stores : authorization request readings = .ok token) (audit : AuditLogger) :
    FlowEffect state (.authorizeDeferred request readings)
      ⟨⟨state.tokens.tokens.set token.tokenId token⟩, audit, state.gateway⟩
  | uncharged (token : PaymentToken) (request : ChargeRequest) (readings : ChargeReadings)
    (refused : ¬Reaches token request) :
    FlowEffect state (.chargeDeferred token request readings) state
  /-- Whether or not the reply arrived. -/
  | charged (token : PaymentToken) (request : ChargeRequest) (readings : ChargeReadings)
    (reaches : Reaches token request) (params : PaymentIntentParams) (audit : AuditLogger) :
    FlowEffect state (.chargeDeferred token request readings)
      ⟨state.tokens, audit, state.gateway.handle (StripeClient.given request.idempotencyKey)
        ⟨token, params⟩⟩

/-- An authorization stores its token and touches no charge, or raises and stores nothing. -/
theorem run_authorizeDeferred (sha256 : String → String) (state : FlowState)
    (request : AuthorizeRequest) (readings : AuthorizeReadings) :
    match authorization request readings with
    | .error error => (authorizeDeferred sha256 request readings).run state = .error error state
    | .ok token => ∃ audit, (authorizeDeferred sha256 request readings).run state = .ok token
        ⟨⟨state.tokens.tokens.set token.tokenId token⟩, audit, state.gateway⟩ := by
  -- In the order of the body: the request, Stripe's reply, the check of the store.
  cases built : setupRequest request with
  | error error => simp [authorization, authorizeDeferred, built]
  | ok sent =>
    cases replied : readings.stripe sent with
    | error error => simp [authorization, authorizeDeferred, built, replied]
    | ok intent =>
      have checks : state.tokens.store (authorizedToken request readings intent) =
          PaymentTokenStore.assertZeroPan intent.id >>= fun _ =>
            .ok ⟨state.tokens.tokens.set (authorizedToken request readings intent).tokenId
              (authorizedToken request readings intent)⟩ := rfl
      cases checked : PaymentTokenStore.assertZeroPan intent.id with
      | error error =>
        simp [authorization, authorizeDeferred, built, replied, checks, checked]
      | ok _ => simp [authorization, authorizeDeferred, built, replied, checks, checked]

/-- A charge that reaches Stripe is handled there; nothing happens to any other one. -/
theorem stateAfter_chargeDeferred (sha256 : String → String) (state : FlowState)
    (token : PaymentToken) (request : ChargeRequest) (readings : ChargeReadings) :
    FlowEffect state (.chargeDeferred token request readings)
      (stateAfter (chargeDeferred sha256 token request readings) state) := by
  -- In the order of the body: the kind of the token, the payment method, the charge.
  by_cases deferred : token.tokenType = .setupIntent
  · cases tokenized : StripeClient.requireToken request.paymentMethodId with
    | error error =>
      have raised : (chargeDeferred sha256 token request readings).run state =
          .error error state := by
        simp [chargeDeferred, deferred, chargeRequest, StripeClient.chargeFromToken, tokenized]
      rw [stateAfter_error raised]
      refine .uncharged token request readings fun reaches => ?_
      have accepted := reaches.2
      rw [tokenized] at accepted
      cases accepted
    | ok _ =>
      obtain ⟨params, built⟩ : ∃ params, chargeRequest token request =
          .ok ⟨params, StripeClient.given request.idempotencyKey⟩ := by
        simp [chargeRequest, StripeClient.chargeFromToken, tokenized]
      -- The charge stays performed even where the reply is an error.
      have handled : ∃ audit, stateAfter (chargeDeferred sha256 token request readings) state =
          ⟨state.tokens, audit, state.gateway.handle (StripeClient.given request.idempotencyKey)
            ⟨token, params⟩⟩ := by
        cases replied : readings.stripe ⟨params, StripeClient.given request.idempotencyKey⟩ with
        | error error => simp [stateAfter, chargeDeferred, deferred, built, replied]
        | ok intent => simp [stateAfter, chargeDeferred, deferred, built, replied]
      obtain ⟨audit, handled⟩ := handled
      rw [handled]
      exact .charged token request readings ⟨deferred, tokenized⟩ params audit
  · have raised : (chargeDeferred sha256 token request readings).run state =
        .error (.valueError ("Deferred charge requires a setup_intent token, got " ++
          token.tokenType.value)) state := by
      simp [chargeDeferred, deferred]
    rw [stateAfter_error raised]
    exact .uncharged token request readings fun reaches => deferred reaches.1

/-- Every call has one of these effects. -/
theorem step_effect (sha256 : String → String) (state : FlowState) (call : FlowCall) :
    FlowEffect state call (step sha256 state call) := by
  -- One lemma for each of the two calls.
  cases call with
  | authorizeDeferred request readings =>
    have outcome := run_authorizeDeferred sha256 state request readings
    cases stores : authorization request readings with
    | error error =>
      rw [stores] at outcome
      rw [step, stateAfter_error outcome]
      exact .unauthorized request readings error stores
    | ok token =>
      rw [stores] at outcome
      obtain ⟨audit, returned⟩ := outcome
      rw [step, stateAfter_ok returned]
      exact .authorized request readings token stores audit
  | chargeDeferred token request readings =>
    exact stateAfter_chargeDeferred sha256 state token request readings

/-- A call leaves no stored token with a second charge: it asks Stripe for a first one or repeats a
key, and an authorization stores no token that was charged twice before. -/
def Safe (state : FlowState) : FlowCall → Prop
  | .authorizeDeferred request readings =>
    ∀ token, authorization request readings = .ok token → state.chargesOf token ≤ 1
  | .chargeDeferred token request _ =>
    state.tokens.Holds token → Reaches token request →
      state.gateway.repeats (StripeClient.given request.idempotencyKey) = true ∨
        state.chargesOf token = 0

/-- An authorization gives a SetupIntent token. -/
theorem authorization_kind {request : AuthorizeRequest} {readings : AuthorizeReadings}
    {token : PaymentToken} (stores : authorization request readings = .ok token) :
    token.tokenType = .setupIntent := by
  -- The token is made after the three steps that may raise.
  obtain ⟨sent, _, stores⟩ := bind_eq_ok stores
  obtain ⟨intent, _, stores⟩ := bind_eq_ok stores
  obtain ⟨_, _, stores⟩ := bind_eq_ok stores
  cases stores
  rfl

/-- Two charges that carry one key are one charge, whatever was replied to the first. -/
theorem chargeDeferred_repeated (sha256 : String → String) (state : FlowState)
    {token : PaymentToken} {request again : ChargeRequest} {readings later : ChargeReadings}
    {key : String} (reaches : Reaches token request)
    (keyed : StripeClient.given request.idempotencyKey = some key)
    (same : StripeClient.given again.idempotencyKey = some key) :
    (step sha256 (step sha256 state (.chargeDeferred token request readings))
        (.chargeDeferred token again later)).gateway =
      (step sha256 state (.chargeDeferred token request readings)).gateway := by
  -- The first charge leaves its key with Stripe, so that the second one repeats it.
  have first := step_effect sha256 state (.chargeDeferred token request readings)
  generalize step sha256 state (.chargeDeferred token request readings) = between at first ⊢
  have second := step_effect sha256 between (.chargeDeferred token again later)
  generalize step sha256 between (.chargeDeferred token again later) = after at second ⊢
  cases second with
  | uncharged _ _ _ refused => rfl
  | charged _ _ _ reached params audit =>
    cases first with
    | uncharged _ _ _ refused => exact absurd reaches refused
    | charged _ _ _ _ before _ =>
      rw [keyed, same]
      exact state.gateway.handle_handle _ key _

/-- After an authorization its token is stored, and what else is stored was stored before. -/
theorem holds_set {store : PaymentTokenStore} {token other : PaymentToken}
    (holds : (⟨store.tokens.set token.tokenId token⟩ : PaymentTokenStore).Holds other) :
    other = token ∨ store.Holds other := by
  -- Reading back gives the new token under its id and the old one elsewhere.
  obtain ⟨tokenId, found⟩ := holds
  rw [PaymentTokenStore.get, Dict.get?_set] at found
  by_cases same : tokenId = token.tokenId
  · rw [if_pos same] at found
    exact Or.inl (Option.some.inj found).symm
  · rw [if_neg same] at found
    exact Or.inr ⟨tokenId, found⟩

/-- One call keeps stored tokens charged at most once exactly if it is safe. -/
theorem FlowEffect.chargedAtMostOnce_iff {state after : FlowState} {call : FlowCall}
    (once : state.ChargedAtMostOnce) (effect : FlowEffect state call after) :
    after.ChargedAtMostOnce ↔ Safe state call := by
  -- A call that is refused changes nothing. An authorization changes which tokens are counted,
  -- and a charge changes the count of one token.
  cases effect with
  | unauthorized request readings error refused =>
    refine iff_of_true once fun token stores => ?_
    rw [refused] at stores
    cases stores
  | authorized request readings token stores audit =>
    constructor
    · intro kept other stored
      rw [stores] at stored
      cases stored
      exact kept token ⟨token.tokenId, Dict.get?_set_self _ _ _⟩ (authorization_kind stores)
    · intro safe other holds kind
      rcases holds_set holds with rfl | held
      · exact safe other stores
      · exact once other held kind
  | uncharged token request readings refused =>
    exact iff_of_true once fun _ reaches => absurd reaches refused
  | charged token request readings reaches params audit =>
    constructor
    · intro kept holds _
      have counted := (state.gateway.performed_handle_le_one_iff _ ⟨token, params⟩ _
        (once token holds reaches.1)).mp (kept token holds reaches.1)
      exact counted (by simp)
    · intro safe other holds kind
      refine (state.gateway.performed_handle_le_one_iff _ ⟨token, params⟩ _
        (once other holds kind)).mpr fun counted => ?_
      obtain rfl : token = other := by simpa using counted
      exact safe holds reaches

/--
Over any calls, from any tokens and any keys Stripe has seen, no stored SetupIntent token is ever
charged twice exactly when every charge of a stored token that reaches Stripe is its first one or
repeats a key, and no authorization stores a token that was charged twice before it was stored.

Nothing in the service makes it so: a key is sent only if the caller passes one, and neither the
token nor the store remembers a charge. A charge that raised may have been performed.
-/
theorem charged_at_most_once_iff (sha256 : String → String) (tokens : PaymentTokenStore)
    (audit : AuditLogger) (keys : List String) (calls : List FlowCall) :
    Run.Always (step sha256) FlowState.ChargedAtMostOnce ⟨tokens, audit, ⟨keys, []⟩⟩ calls ↔
      Run.AllSteps (step sha256) Safe ⟨tokens, audit, ⟨keys, []⟩⟩ calls := by
  -- No charge was performed at the start, and each state is judged by the call that leads to it.
  have initial : FlowState.ChargedAtMostOnce ⟨tokens, audit, ⟨keys, []⟩⟩ :=
    fun token _ _ => Nat.zero_le 1
  refine Run.always_iff_allSteps (step sha256) (fun state call once _ => ?_) initial
    (Run.allSteps_of_forall (step sha256) (fun _ _ => trivial) _)
  exact (step_effect sha256 state call).chargedAtMostOnce_iff once

/-- An authorization that Stripe grants. -/
def sampleAuthorization : FlowCall :=
  .authorizeDeferred ⟨"t1", "ORD-1", "pm_1", none, none⟩
    ⟨fun _ => .ok ⟨"seti_1"⟩, Stamp.sample, Stamp.sample⟩

/-- The token it stores. -/
def sampleToken : PaymentToken := .new "t1" "ORD-1" "seti_1" .setupIntent Stamp.sample

/-- A charge of this token with the default key. -/
def sampleCharge : FlowCall :=
  .chargeDeferred sampleToken ⟨1000, "eur", "pm_1", none, none⟩
    ⟨fun _ => .ok ⟨"pi_1", "succeeded", 1000, "eur", none⟩, Stamp.sample⟩

/-- Two charges without a key charge the token twice. -/
theorem charged_twice_without_key :
    ¬Run.Always (step id) FlowState.ChargedAtMostOnce
      ⟨PaymentTokenStore.new, AuditLoggerOf.new, ⟨[], []⟩⟩
      [sampleAuthorization, sampleCharge, sampleCharge] := by
  -- Neither request carries a key, so that both are performed.
  rintro ⟨-, -, -, last⟩
  have stored : (step id (step id (step id ⟨PaymentTokenStore.new, AuditLoggerOf.new, ⟨[], []⟩⟩
      sampleAuthorization) sampleCharge) sampleCharge).tokens.Holds sampleToken :=
    ⟨sampleToken.tokenId, by decide +kernel⟩
  exact absurd (last sampleToken stored rfl) (by decide +kernel)

end PaymentFlowService

end JolCommerce
