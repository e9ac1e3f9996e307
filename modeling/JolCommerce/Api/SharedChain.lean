import JolCommerce.Api.AtMostOnce
import JolCommerce.Api.RoutesOrder
import JolCommerce.Run.Frame

/-! The whole API over the loggers it really writes: only the order routes reach the shared chain. -/

namespace JolCommerce

open Python

/-- Entries were appended to a log, at least one. -/
def AuditLogger.Grown (before after : AuditLogger) : Prop :=
  ∃ entry later, after.entries = before.entries ++ entry :: later

/-- The process behind the API, each service with the logger it was constructed with. -/
structure Deployment where
  /-- What `order_service` shares; its log is the one that `state` hands to it. -/
  world : World
  /-- The logger that `PaymentIntentService` constructed for itself. -/
  intentAudit : AuditLogger
  /-- The webhook handler, which constructed a logger as well; the refund service has none. -/
  webhook : HandlerState

/-- A request to the API, with what is drawn and what Stripe replies while it is served. -/
inductive PublicRequest where
  | createOrder (tenant : Option TenantContext) (request : CreateOrderRequest)
    (readings : CreateReadings)
  | transitionOrder (tenant : Option TenantContext) (orderId : String)
    (request : OrderTransitionRequest) (readings : LifecycleReadings)
  | completeOrder (tenant : Option TenantContext) (orderId : String)
    (request : OrderTransitionRequest) (readings : LifecycleReadings)
  | cancelOrder (tenant : Option TenantContext) (orderId : String)
    (request : OrderTransitionRequest) (readings : LifecycleReadings)
  | createPaymentIntent (request : CreatePaymentIntentBody) (readings : IntentReadings)
  | createRefund (request : CreateRefundBody) (readings : RefundReadings)
  | handleStripeWebhook (post : WebhookPost)

/-- The body of a success response. -/
inductive PublicResponse where
  | order (body : OrderResponse)
  | paymentIntent (body : PaymentIntentBody)
  | refund (body : RefundBody)
  | webhookEvent (body : WebhookEventResponse)

namespace Deployment

/-- `state.audit_logger`. -/
def auditLogger (deployment : Deployment) : AuditLogger := deployment.world.audit

/-- Code of the API. -/
abbrev DeploymentM := EStateM PyError Deployment

section Serving

variable (service : OrderService) (constructEvent : String → String → Except ConstructError StripeEvent)

/-- Code of the order routes. -/
def overOrders (code : ServiceM OrderResponse) : DeploymentM PublicResponse :=
  Run.zoom world (fun deployment world => { deployment with world := world })
    (.order <$> code)

/-- Code of the intent route. -/
def overIntents (code : PaymentIntentService.IntentM PaymentIntentBody) :
    DeploymentM PublicResponse :=
  Run.zoom intentAudit (fun deployment audit => { deployment with intentAudit := audit })
    (.paymentIntent <$> code)

/-- Code of the webhook route. -/
def overWebhook (code : StripeWebhookHandler.HandlerM WebhookEventResponse) :
    DeploymentM PublicResponse :=
  Run.zoom webhook (fun deployment handler => { deployment with webhook := handler })
    (.webhookEvent <$> code)

/-- Code of the refund route, which has no state. -/
def overRefunds (result : Except PyError RefundBody) : DeploymentM PublicResponse :=
  match result with
  | .ok body => pure (.refund body)
  | .error error => throw error

/-- The route that serves a request. -/
def serve : PublicRequest → DeploymentM PublicResponse
  | .createOrder tenant request readings =>
    overOrders (RoutesOrder.createOrder service tenant request readings)
  | .transitionOrder tenant orderId request readings =>
    overOrders (RoutesOrder.transitionOrder service tenant orderId request readings)
  | .completeOrder tenant orderId request readings =>
    overOrders (RoutesOrder.completeOrder service tenant orderId request readings)
  | .cancelOrder tenant orderId request readings =>
    overOrders (RoutesOrder.cancelOrder service tenant orderId request readings)
  | .createPaymentIntent request readings =>
    overIntents (RoutesPayment.createPaymentIntent service.sha256 request readings)
  | .createRefund request readings => overRefunds (RoutesPayment.createRefund request readings)
  | .handleStripeWebhook post =>
    overWebhook (RoutesPayment.handleStripeWebhook constructEvent service.sha256 post)

/-- The deployment after a request, whether it was answered or raised. -/
def step (deployment : Deployment) (request : PublicRequest) : Deployment :=
  stateAfter (serve service constructEvent request) deployment

/-- A request returns a success response. -/
def Succeeds (deployment : Deployment) (request : PublicRequest) : Prop :=
  ∃ response after,
    (serve service constructEvent request).run deployment = .ok response after

/-- A request appends at least one entry to the shared chain. -/
def Records (deployment : Deployment) (request : PublicRequest) : Prop :=
  AuditLogger.Grown deployment.auditLogger
    (step service constructEvent deployment request).auditLogger

end Serving

end Deployment

/-- Stripe accepts an intent, in a state that the service knows. -/
def PaymentIntentService.Accepts (request : PaymentIntentRequest) (readings : IntentReadings) :
    Prop :=
  ∃ sent intent status, StripeClient.createPaymentIntent request.customerId
      request.idempotencyKey (some ((request.metadata.getD Dict.empty).set "order_id"
        request.orderId)) request.amountCents request.currency request.paymentMethodId = .ok sent ∧
    readings.stripe sent = .ok intent ∧ PaymentStatus.read intent.status = .ok status

/-- What is lifted without raising was computed without raising. -/
theorem PaymentIntentService.lift_eq_ok {α : Type} {result : Except PyError α} {value : α}
    {audit after : AuditLogger} (returned : (lift result).run audit = .ok value after) :
    result = .ok value := by
  -- A result that raises would have ended the call.
  cases result with
  | error error => cases returned
  | ok other =>
    cases returned
    rfl

/-- Exactly an accepted intent is returned. -/
theorem PaymentIntentService.createIntent_ok_iff (sha256 : String → String)
    (request : PaymentIntentRequest) (readings : IntentReadings) (audit : AuditLogger) :
    (∃ response after, (createIntent sha256 request readings).run audit = .ok response after) ↔
      Accepts request readings := by
  -- In the order of the body: the request, Stripe's reply, the log entry, the state of the
  -- intent.
  constructor
  · rintro ⟨response, after, returned⟩
    obtain ⟨sent, _, built, returned⟩ := run_bind_eq_ok returned
    obtain ⟨intent, _, replied, returned⟩ := run_bind_eq_ok returned
    obtain ⟨_, _, _, returned⟩ := run_bind_eq_ok returned
    obtain ⟨status, _, known, _⟩ := run_bind_eq_ok returned
    exact ⟨sent, intent, status, lift_eq_ok built, lift_eq_ok replied, lift_eq_ok known⟩
  · rintro ⟨sent, intent, status, built, replied, known⟩
    simp [createIntent, lift, built, replied, known]

namespace RoutesPayment

/-- The reason a refund is requested for. -/
def reasonOf (request : CreateRefundBody) : Except PyError RefundReason :=
  match StripeClient.given request.reason with
  | some text => RefundReason.read text
  | none => .ok .requestedByCustomer

/-- Stripe accepts a refund for a known reason, in a state that the service knows. -/
def Refunds (request : CreateRefundBody) (readings : RefundReadings) : Prop :=
  ∃ reason refund status, reasonOf request = .ok reason ∧
    readings.stripe (StripeClient.createRefund request.paymentIntentId request.amountCents
      (some reason.value) request.idempotencyKey) = .ok refund ∧
    RefundStatus.read refund.status = .ok status

/-- The request that the refund route passes on. -/
def internalRefund (request : CreateRefundBody) (reason : RefundReason) : RefundRequest where
  paymentIntentId := request.paymentIntentId
  amountCents := request.amountCents
  reason := reason
  idempotencyKey := request.idempotencyKey

/-- The refund route reads the reason before it does anything else. -/
theorem createRefund_eq (request : CreateRefundBody) (readings : RefundReadings) :
    createRefund request readings = (do
      let reason ← reasonOf request
      let result ← processRefund (internalRefund request reason) readings
      return ⟨result.refundId, result.paymentIntentId, result.amountCents, result.status.value⟩) := by
  -- An absent reason and an empty one are replaced alike.
  unfold createRefund reasonOf
  cases StripeClient.given request.reason with
  | none => rfl
  | some text => rfl

/-- Exactly an accepted refund is returned. -/
theorem createRefund_ok_iff (request : CreateRefundBody) (readings : RefundReadings) :
    (∃ body, createRefund request readings = .ok body) ↔ Refunds request readings := by
  -- In the order of the body: the reason, Stripe's reply, the state of the refund.
  constructor
  · rintro ⟨body, returned⟩
    rw [createRefund_eq] at returned
    obtain ⟨reason, read, returned⟩ := bind_eq_ok returned
    obtain ⟨result, processed, _⟩ := bind_eq_ok returned
    obtain ⟨refund, replied, processed⟩ := bind_eq_ok processed
    obtain ⟨status, known, _⟩ := bind_eq_ok processed
    exact ⟨reason, refund, status, read, replied, known⟩
  · rintro ⟨reason, refund, status, read, replied, known⟩
    simp [createRefund_eq, read, processRefund, internalRefund, replied, known]

/-- Exactly a verified event is answered, unless its claim looks back before year 1. -/
theorem handleStripeWebhook_ok_iff
    (constructEvent : String → String → Except ConstructError StripeEvent)
    (sha256 : String → String) (post : WebhookPost) (handler : HandlerState) :
    (∃ response after,
        (handleStripeWebhook constructEvent sha256 post).run handler = .ok response after) ↔
      ∃ event, verified constructEvent post = .ok event ∧
        handler.eventStore.retention ≤ post.instant.toMicros := by
  -- First the verification decides, then the claim; after the claim every event is answered.
  cases accepted : verified constructEvent post with
  | error error => simp [handleStripeWebhook, accepted]
  | ok event =>
    have outcome := handler.eventStore.claim_outcome event.id post.instant
    cases claimed : handler.eventStore.claim event.id post.instant with
    | error error =>
      rw [claimed] at outcome
      have raised := handleStripeWebhook_refused constructEvent sha256 accepted claimed
      cases outcome with
      | overflow early _ => simp [raised, early]
    | ok result =>
      obtain ⟨fresh, store⟩ := result
      rw [claimed] at outcome
      obtain ⟨answer, after, status, returned, answered, _⟩ :=
        @StripeWebhookHandler.handleEvent_answered sha256 event post.readings handler fresh store
          claimed
      have responded :=
        handleStripeWebhook_answered constructEvent sha256 accepted returned answered
      have inRange : handler.eventStore.retention ≤ post.instant.toMicros := by
        cases outcome with
        | replayed inRange _ _ _ _ => exact inRange
        | claimed inRange _ _ _ _ _ => exact inRange
      exact iff_of_true ⟨_, _, responded⟩ ⟨event, rfl, inRange⟩

end RoutesPayment

/-- Logging appends an entry. -/
theorem AuditLogger.grown_logged (world : World) (sha256 : String → String) (stamp : Stamp)
    (call : LogCall JsonObject) : Grown world.audit (world.logged sha256 stamp call).audit :=
  ⟨_, [], rfl⟩

/-- A log that has grown and is written again has grown. -/
theorem AuditLogger.Grown.logged {before : AuditLogger} {world : World}
    (grown : Grown before world.audit) (sha256 : String → String) (stamp : Stamp)
    (call : LogCall JsonObject) : Grown before (world.logged sha256 stamp call).audit := by
  obtain ⟨entry, later, appended⟩ := grown
  obtain ⟨second, rest, written⟩ := grown_logged world sha256 stamp call
  exact ⟨entry, later ++ second :: rest, by rw [written, appended, List.append_assoc]; rfl⟩

namespace OrderService

open AuditLogger

variable {service : OrderService} {tenant : Option TenantContext} {ref : OrderRef}
  {world after : World}

/-- A registration that returns was logged. -/
theorem register_grown {actor : String} {stamp : Stamp}
    (returned : (service.register tenant ref actor stamp).run world = .ok () after) :
    Grown world.audit after.audit := by
  -- Only one outcome returns, and its last effect is the entry.
  have outcome := service.register_outcome tenant ref actor world stamp
  rw [returned] at outcome
  cases outcome with
  | registered allowed =>
    exact grown_logged ((world.withOrder ref (bindTenant tenant (world.orders ref))).stored ref) _ _ _

section Lifecycle

variable {newStatus : OrderStatus} {actor reason : String} {readings : LifecycleReadings}
  {change : OrderStateChange}

/-- A change of an order is logged before the transition goes on. -/
theorem afterChange_grown (service : OrderService) (ref : OrderRef) (newStatus : OrderStatus)
    (actor reason : String) (readings : LifecycleReadings) (world : World) :
    Grown world.audit (service.afterChange ref newStatus actor reason readings world).audit :=
  grown_logged ((afterMove ref newStatus actor reason readings world).stored ref) _ _ _

/-- A transition that returns was logged. -/
theorem transition_grown (returned :
    (service.transition tenant ref newStatus actor reason readings).run world = .ok change after) :
    Grown world.audit after.audit := by
  -- The change is logged whatever the target; a completion logs its settlement as well.
  have outcome := service.transition_outcome tenant ref newStatus actor reason readings world
  rw [returned] at outcome
  have changed := afterChange_grown service ref newStatus actor reason readings world
  cases outcome with
  | changed valid allowed open_ => exact changed
  | settled valid allowed completed split calculated entry built =>
    -- The settlement is logged after the change.
    exact @Grown.logged world.audit { (service.afterChange ref newStatus actor reason readings
      world).withOrder ref _ with ledger := _ } changed _ _ _

/-- A cancellation that returns was logged. -/
theorem cancel_grown
    (returned : (service.cancel tenant ref actor reason readings).run world = .ok change after) :
    Grown world.audit after.audit := by
  -- The transition has been logged when the callback runs, and the cancellation follows.
  have outcome := service.cancel_outcome tenant ref actor reason readings world
  rw [returned] at outcome
  cases outcome with
  | cancelled valid allowed refundRef refunded =>
    have refund : Grown world.audit (service.afterRefund ref actor reason readings world).audit := by
      -- The callback writes to no log.
      have changed := afterChange_grown service ref .cancelled actor reason readings world
      unfold afterRefund
      split
      · exact changed
      · exact changed
    exact refund.logged _ _ _

end Lifecycle

end OrderService

namespace RoutesOrder

open AuditLogger

variable {tenant : Option TenantContext} {world after : World} {response : OrderResponse}

/-- A creation that is answered was logged. -/
theorem createOrder_grown {service : OrderService} {request : CreateOrderRequest}
    {readings : CreateReadings}
    (answered : (createOrder service tenant request readings).run world = .ok response after) :
    Grown world.audit after.audit := by
  -- Before the registration an order object is allocated and nothing is logged.
  cases tenant with
  | none => cases answered
  | some context =>
    cases read : readPaymentMode request.paymentMode with
    | error error =>
      simp only [createOrder, requireTenant, read, EStateM.run_bind, ServiceM.run_lift_ok,
        ServiceM.run_lift_error] at answered
      cases answered
    | ok mode =>
      simp only [createOrder, requireTenant, read, EStateM.run_bind, ServiceM.run_lift_ok,
        EStateM.run_get, EStateM.run_modify] at answered
      cases registered : (service.register (some context) world.nextRef request.customerId
        readings.createdStamp).run (world.allocated (newOrder context mode request readings)) with
      | error error middle =>
        rw [registered] at answered
        cases answered
      | ok value middle =>
        rw [registered] at answered
        cases answered
        have grown : Grown (world.allocated (newOrder context mode request readings)).audit
          after.audit := OrderService.register_grown registered
        exact grown

/-- A lifecycle route that is answered has logged what its call logs. -/
theorem applied_grown {orderId : String} {call : OrderRef → ServiceM OrderStateChange}
    (grows : ∀ ref change final, (call ref).run world = .ok change final →
      Grown world.audit final.audit)
    (answered : (applied tenant orderId call).run world = .ok response after) :
    Grown world.audit after.audit := by
  -- The lookup changes nothing, and the answer is only read from the order.
  rcases getOrderOr404_cases tenant orderId world with ⟨error, raised⟩ | ⟨ref, _, found⟩
  · simp only [applied, EStateM.run_bind, raised] at answered
    cases answered
  · simp only [applied, EStateM.run_bind, found, run_conflicting] at answered
    cases ran : (call ref).run world with
    | error error middle =>
      rw [ran] at answered
      cases error <;> cases answered
    | ok change middle =>
      rw [ran] at answered
      cases answered
      exact grows ref change after ran

/-- A transition route that is answered was logged. -/
theorem transitionOrder_grown {service : OrderService} {orderId : String}
    {request : OrderTransitionRequest} {readings : LifecycleReadings}
    (answered : (transitionOrder service tenant orderId request readings).run world =
      .ok response after) : Grown world.audit after.audit := by
  -- The text of the status is read first, and an unknown one ends the call.
  refine applied_grown (fun ref change final returned => ?_) answered
  cases read : readOrderStatus request.status with
  | error error =>
    rw [read] at returned
    cases returned
  | ok status =>
    rw [read] at returned
    exact OrderService.transition_grown returned

end RoutesOrder

/-- A view that a call keeps is the same in the state it leaves behind. -/
theorem stateAfter_keeps {ε σ α γ : Type} {view : σ → γ} {call : EStateM ε σ α}
    (kept : Run.Keeps view call) (state : σ) : view (stateAfter call state) = view state := by
  cases ran : call.run state with
  | ok value after => rw [stateAfter_ok ran, kept.ok ran]
  | error error after => rw [stateAfter_error ran, kept.error ran]

/-- The request that the intent route passes on. -/
def CreatePaymentIntentBody.internal (request : CreatePaymentIntentBody) : PaymentIntentRequest where
  amountCents := request.amountCents
  currency := request.currency
  paymentMethodId := request.paymentMethodId
  orderId := request.orderId
  customerId := request.customerId
  idempotencyKey := request.idempotencyKey

namespace Deployment

open AuditLogger

section Steps

variable (service : OrderService) (constructEvent : String → String → Except ConstructError StripeEvent)

/-- A payment request goes through: what it asks for, what Stripe replies and the clock decide. -/
def Pays (retention : Int) : PublicRequest → Prop
  | .createPaymentIntent request readings => PaymentIntentService.Accepts request.internal readings
  | .createRefund request readings => RoutesPayment.Refunds request readings
  | .handleStripeWebhook post =>
    ∃ event, RoutesPayment.verified constructEvent post = .ok event ∧
      retention ≤ post.instant.toMicros
  | _ => False

/-- Code that was turned into a response returns where it returned. -/
theorem map_ok_iff {σ α β : Type} (respond : α → β) (code : EStateM PyError σ α) (state : σ) :
    (∃ response after, (respond <$> code).run state = .ok response after) ↔
      ∃ body after, code.run state = .ok body after := by
  -- Making the response raises nothing and leaves the state.
  simp only [run_map_eq_ok_iff]
  constructor
  · rintro ⟨response, after, body, returned, -⟩
    exact ⟨body, after, returned⟩
  · rintro ⟨body, after, returned⟩
    exact ⟨_, after, body, returned, rfl⟩

/-- Code over a part of the deployment returns where it returns on that part. -/
theorem zoom_ok_iff {σ α : Type} {part : Deployment → σ} {replace : Deployment → σ → Deployment}
    (code : EStateM PyError σ α) (deployment : Deployment) :
    (∃ response after, (Run.zoom part replace code).run deployment = .ok response after) ↔
      ∃ response after, code.run (part deployment) = .ok response after := by
  -- The rest of the deployment has no part in whether the code returns.
  simp only [Run.zoom_eq_ok_iff]
  constructor
  · rintro ⟨response, _, after, returned, -⟩
    exact ⟨response, after, returned⟩
  · rintro ⟨response, after, returned⟩
    exact ⟨response, _, after, returned, rfl⟩

/-- Code of the order routes that returns has extended the shared chain where it has extended the
log of the orders. -/
theorem overOrders_grown {code : ServiceM OrderResponse} {deployment : Deployment}
    (grows : ∀ response after, code.run deployment.world = .ok response after →
      Grown deployment.world.audit after.audit)
    (succeeds : ∃ response after, (overOrders code).run deployment = .ok response after) :
    Grown deployment.auditLogger (stateAfter (overOrders code) deployment).auditLogger := by
  -- The route returned on the orders what it returned on the deployment.
  obtain ⟨response, after, returned⟩ := succeeds
  rw [stateAfter_ok returned]
  obtain ⟨world, mapped, rfl⟩ := Run.zoom_eq_ok_iff.mp returned
  obtain ⟨body, ran, -⟩ := run_map_eq_ok_iff.mp mapped
  exact grows body world ran

/-- Code that leaves the shared chain alone must not return. -/
theorem kept_grown_iff {code : DeploymentM PublicResponse} (kept : Run.Keeps auditLogger code)
    (deployment : Deployment) :
    ((∃ response after, code.run deployment = .ok response after) →
        Grown deployment.auditLogger (stateAfter code deployment).auditLogger) ↔
      ¬∃ response after, code.run deployment = .ok response after := by
  -- A log that is as it was has not grown, whether or not the code returned.
  have idle : ¬Grown deployment.auditLogger (stateAfter code deployment).auditLogger := by
    rw [stateAfter_keeps kept]
    rintro ⟨entry, later, appended⟩
    simp at appended
  exact ⟨fun grown succeeds => idle (grown succeeds), fun fails succeeds => absurd succeeds fails⟩

/-- The refund route writes nowhere. -/
theorem keeps_overRefunds (result : Except PyError RefundBody) :
    Run.Keeps id (overRefunds result) := by
  -- Both of its ways to end are without effect.
  cases result with
  | ok body => exact Run.keeps_pure _
  | error error => exact Run.keeps_throw _

/-- The intent route writes to the log of its service only. -/
theorem keeps_overIntents (code : PaymentIntentService.IntentM PaymentIntentBody) :
    Run.Keeps (fun deployment => (deployment.auditLogger, deployment.webhook))
      (overIntents code) := by
  -- Another log of the service is no part of either view.
  unfold overIntents
  apply Run.keeps_zoom
  intro deployment part
  rfl

/-- The webhook route writes to the objects of its handler only. -/
theorem keeps_overWebhook (code : StripeWebhookHandler.HandlerM WebhookEventResponse) :
    Run.Keeps auditLogger (overWebhook code) := by
  -- Another state of the handler leaves the shared chain.
  unfold overWebhook
  apply Run.keeps_zoom
  intro deployment part
  rfl

/-- A request is recorded where it succeeds, exactly unless it is a payment that goes through. -/
theorem records_iff (deployment : Deployment) (request : PublicRequest) :
    (Succeeds service constructEvent deployment request →
        Records service constructEvent deployment request) ↔
      ¬Pays constructEvent deployment.webhook.eventStore.retention request := by
  -- The order routes log what they answer. The others cannot reach the shared chain, so that they
  -- record what they answer only by never answering.
  cases request with
  | createOrder tenant request readings =>
    exact iff_of_true (overOrders_grown fun _ _ => RoutesOrder.createOrder_grown) id
  | transitionOrder tenant orderId request readings =>
    exact iff_of_true (overOrders_grown fun _ _ => RoutesOrder.transitionOrder_grown) id
  | completeOrder tenant orderId request readings =>
    exact iff_of_true (overOrders_grown fun _ _ => RoutesOrder.applied_grown
      fun _ _ _ => OrderService.transition_grown) id
  | cancelOrder tenant orderId request readings =>
    exact iff_of_true (overOrders_grown fun _ _ => RoutesOrder.applied_grown
      fun _ _ _ => OrderService.cancel_grown) id
  | createPaymentIntent request readings =>
    refine (kept_grown_iff ((keeps_overIntents _).map Prod.fst) deployment).trans (not_congr ?_)
    exact (zoom_ok_iff _ deployment).trans ((map_ok_iff _ _ _).trans
      ((map_ok_iff _ _ _).trans (PaymentIntentService.createIntent_ok_iff _ _ _ _)))
  | createRefund request readings =>
    refine (kept_grown_iff ((keeps_overRefunds _).map auditLogger) deployment).trans
      (not_congr ?_)
    rw [Pays, ← RoutesPayment.createRefund_ok_iff]
    cases RoutesPayment.createRefund request readings with
    | ok body => exact iff_of_true ⟨_, _, rfl⟩ ⟨_, rfl⟩
    | error error => simp [overRefunds]
  | handleStripeWebhook post =>
    refine (kept_grown_iff (keeps_overWebhook _) deployment).trans (not_congr ?_)
    exact (zoom_ok_iff _ deployment).trans ((map_ok_iff _ _ _).trans
      (RoutesPayment.handleStripeWebhook_ok_iff constructEvent service.sha256 post _))

/-- The order routes write to what the order service shares only. -/
theorem keeps_overOrders (code : ServiceM OrderResponse) :
    Run.Keeps webhook (overOrders code) := by
  -- Another state of the orders leaves the handler.
  unfold overOrders
  apply Run.keeps_zoom
  intro deployment part
  rfl

/-- The webhook route leaves behind what its handler leaves behind. -/
theorem webhook_overWebhook (code : StripeWebhookHandler.HandlerM WebhookEventResponse)
    (deployment : Deployment) :
    (stateAfter (overWebhook code) deployment).webhook = stateAfter code deployment.webhook := by
  unfold stateAfter overWebhook Run.zoom
  simp only [EStateM.run, Functor.map, EStateM.map]
  cases code deployment.webhook with
  | ok body after => rfl
  | error error after => rfl

/-- No request changes how long the handler remembers events. -/
theorem step_retention (deployment : Deployment) (request : PublicRequest) :
    (step service constructEvent deployment request).webhook.eventStore.retention =
      deployment.webhook.eventStore.retention := by
  -- Only the webhook route touches the handler at all.
  have orders : ∀ code, (stateAfter (overOrders code) deployment).webhook = deployment.webhook :=
    fun code => stateAfter_keeps (keeps_overOrders code) deployment
  cases request with
  | createOrder tenant request readings => exact congrArg (·.eventStore.retention) (orders _)
  | transitionOrder tenant orderId request readings =>
    exact congrArg (·.eventStore.retention) (orders _)
  | completeOrder tenant orderId request readings =>
    exact congrArg (·.eventStore.retention) (orders _)
  | cancelOrder tenant orderId request readings =>
    exact congrArg (·.eventStore.retention) (orders _)
  | createPaymentIntent request readings =>
    exact stateAfter_keeps ((keeps_overIntents _).map fun view => view.2.eventStore.retention)
      deployment
  | createRefund request readings =>
    exact stateAfter_keeps ((keeps_overRefunds _).map fun same => same.webhook.eventStore.retention)
      deployment
  | handleStripeWebhook post =>
    rw [step, serve, webhook_overWebhook]
    exact RoutesPayment.receive_retention ⟨deployment.webhook, []⟩ post

/--
Over any requests to the API, from any state of the deployment, every request that returns a success
response has extended the shared chain exactly when no payment intent, refund or webhook among them
goes through.

The order routes reach the logger that `state` handed to the order service. The payment services
were handed none: two constructed loggers of their own, and the refund service writes nowhere.
-/
theorem shared_chain_complete_iff (deployment : Deployment) (requests : List PublicRequest) :
    Run.AllSteps (step service constructEvent) (fun deployment request =>
        Succeeds service constructEvent deployment request →
          Records service constructEvent deployment request) deployment requests ↔
      ∀ request ∈ requests,
        ¬Pays constructEvent deployment.webhook.eventStore.retention request := by
  -- Each request is judged by itself: of the state its condition reads only the retention, which
  -- stays.
  induction requests generalizing deployment with
  | nil => simp [Run.AllSteps]
  | cons request rest ih =>
    rw [Run.AllSteps, records_iff, ih, step_retention, List.forall_mem_cons]

end Steps

/-- A deployment just started, with the default retention. -/
def sampleDeployment : Deployment :=
  ⟨World.fresh OrderService.draftOrders 0, AuditLoggerOf.new,
    RoutesPayment.sampleHandler 1 (by decide)⟩

/-- A full refund that Stripe grants. -/
def sampleRefund : PublicRequest :=
  .createRefund ⟨"pi_1", none, none, none⟩ ⟨fun _ => .ok ⟨"re_1", 1000, "succeeded"⟩,
    Stamp.sample.moment⟩

/-- A refund succeeds and the shared chain stays empty. -/
theorem refund_unrecorded :
    ¬Run.AllSteps (step OrderService.sampleService RoutesPayment.sampleConstruct)
      (fun deployment request =>
        Succeeds OrderService.sampleService RoutesPayment.sampleConstruct deployment request →
          Records OrderService.sampleService RoutesPayment.sampleConstruct deployment request)
      sampleDeployment [sampleRefund] := by
  -- Stripe grants the refund, so the request goes through.
  rintro ⟨recorded, -⟩
  refine (records_iff _ _ _ _).mp recorded ⟨.requestedByCustomer, ⟨"re_1", 1000, "succeeded"⟩,
    .succeeded, rfl, rfl, rfl⟩

end Deployment

end JolCommerce
