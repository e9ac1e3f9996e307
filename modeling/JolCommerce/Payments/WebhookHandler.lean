import JolCommerce.Audit.ChainVerifier
import JolCommerce.Numeric.Significant
import JolCommerce.Payments.WebhookDedup

/-! The Stripe webhook handler over a heap of dictionaries: a logged receipt is shared, not copied. -/

namespace JolCommerce

open Python

/-- A reference to a dictionary object. -/
abbrev DictRef := Nat

/-- The dictionary objects created so far, by reference. -/
structure DictHeap where
  cells : List JsonObject

namespace DictHeap

/-- What a dictionary holds now. -/
def read (heap : DictHeap) (ref : DictRef) : JsonObject := heap.cells.getD ref SortedMap.empty

/-- A new dictionary object. -/
def allocate (heap : DictHeap) (object : JsonObject) : DictHeap := ⟨heap.cells ++ [object]⟩

/-- `ref[key] = value`, seen by everyone who holds the reference. -/
def write (heap : DictHeap) (ref : DictRef) (key : String) (value : JsonValue) : DictHeap :=
  ⟨heap.cells.set ref ((heap.read ref).set key value)⟩

end DictHeap

/-- Stripe event types the handler knows. -/
inductive WebhookEventType where
  | paymentIntentSucceeded
  | paymentIntentFailed
  | paymentIntentCancelled
  | chargeRefunded
  | chargeDisputeCreated

/-- The text an event type is compared as. -/
def WebhookEventType.value : WebhookEventType → String
  | .paymentIntentSucceeded => "payment_intent.succeeded"
  | .paymentIntentFailed => "payment_intent.payment_failed"
  | .paymentIntentCancelled => "payment_intent.canceled"
  | .chargeRefunded => "charge.refunded"
  | .chargeDisputeCreated => "charge.dispute.created"

/-- The attributes of `event.data.object` that the handler looks for. -/
structure StripeObject where
  /-- `payment_intent`: absent, null or a reference. -/
  paymentIntent : Option (Option String)
  /-- `id`, where the object has one. -/
  id : Option String

/-- A verified Stripe event. -/
structure StripeEvent where
  id : String
  type : String
  created : Int
  object : StripeObject

/-- What `stripe.Webhook.construct_event` raises for a payload it refuses. -/
inductive ConstructError where
  /-- `ValueError`: the payload is no event. -/
  | valueError (message : String)
  /-- `SignatureVerificationError`: the payload is not signed with the secret. -/
  | signatureVerification (message : String)

/-- `WebhookVerificationError` with its message. -/
structure WebhookVerificationError where
  message : String

/-- `MAX_TIMESTAMP_DRIFT_SECONDS`. -/
def maxTimestampDriftSeconds : Int := 300

/-- `time.time() - event.created`, in microseconds. -/
def eventAge (event : StripeEvent) (now : DateTime) : Int :=
  now.unixMicros - event.created * 1000000

/-- An age as whole seconds, the format `.0f`. -/
def ageText (age : Int) : String :=
  -- A negative age keeps its sign even where it rounds to zero.
  String.ofList ((if age < 0 then ['-'] else []) ++
    natText (Significant.nearest age.natAbs 1000000))

/-- `verify_signature(payload, sig_header, tolerance_seconds)` at an instant. -/
def verifySignature (constructEvent : String → String → Except ConstructError StripeEvent)
    (payload sigHeader : String) (toleranceSeconds : Int) (now : DateTime) :
    Except WebhookVerificationError StripeEvent :=
  match constructEvent payload sigHeader with
  | .error (.valueError message) => .error ⟨"Invalid payload: " ++ message⟩
  | .error (.signatureVerification message) => .error ⟨"Invalid signature: " ++ message⟩
  | .ok event =>
    -- An event exactly as old as allowed still passes.
    if toleranceSeconds * 1000000 < eventAge event now then
      .error ⟨"Webhook event is stale: " ++ ageText (eventAge event now) ++
        "s old (max allowed: " ++ String.ofList (intText toleranceSeconds) ++ "s)"⟩
    else .ok event

/-- What the clock and the UUID generator give during one delivery. -/
structure WebhookReadings where
  claimedAt : DateTime
  receivedAt : DateTime
  stamp : Stamp

/-- The handler's objects: its private logger, its event store, and the dictionaries they share. -/
structure HandlerState where
  heap : DictHeap
  audit : AuditLoggerOf DictRef
  eventStore : WebhookEventStore

/-- A handler just constructed over an event store. -/
def HandlerState.new (eventStore : WebhookEventStore) : HandlerState :=
  ⟨⟨[]⟩, AuditLoggerOf.new, eventStore⟩

/-- The audit entries with what their details hold now. -/
def HandlerState.auditEntries (state : HandlerState) : List AuditEntry :=
  state.audit.entries.map (AuditEntryOf.read state.heap.read)

namespace StripeWebhookHandler

/-- Code that may raise and leaves its effects on the handler behind. -/
abbrev HandlerM := EStateM PyError HandlerState

/-- Create a dictionary. -/
def allocate (object : JsonObject) : HandlerM DictRef :=
  modifyGet fun state =>
    (state.heap.cells.length, { state with heap := state.heap.allocate object })

/-- Write one key of a dictionary. -/
def write (ref : DictRef) (key value : String) : HandlerM Unit :=
  modify fun state => { state with heap := state.heap.write ref key (.str value) }

/-- `self._event_store.claim(event_id)`. -/
def claim (eventId : String) (moment : DateTime) : HandlerM Bool := do
  let state ← get
  match state.eventStore.claim eventId moment with
  | .ok (fresh, eventStore) =>
    set { state with eventStore }
    return fresh
  | .error error => throw error

/-- `self._audit.log(...)`: the reference itself is stored, unless it is missing or empty. -/
def log (sha256 : String → String) (stamp : Stamp) (call : LogCall DictRef) : HandlerM Unit := do
  -- `details or {}` keeps the caller's dictionary when it has an entry.
  let state ← get
  let details ← match call.details with
    | some ref => if (state.heap.read ref).isEmpty then allocate SortedMap.empty else pure ref
    | none => allocate SortedMap.empty
  modify fun state => { state with
    audit := state.audit.append sha256 state.heap.read (state.audit.entryFor stamp call details) }

/-- The payment intent an event is about, `None` where the object names none. -/
def paymentIntentId (event : StripeEvent) : Option String :=
  match event.object.paymentIntent with
  | some reference => reference
  -- An object without the attribute stands for itself only when the event is about an intent.
  | none => if "payment_intent".toList.isPrefixOf event.type.toList then event.object.id else none

/-- The receipt of an event as it is logged. -/
def receiptOf (event : StripeEvent) (receivedAt : DateTime) : JsonObject :=
  .ofList [("event_id", .str event.id), ("event_type", .str event.type),
    ("payment_intent_id", (paymentIntentId event).elim .null .str),
    ("timestamp", .str receivedAt.isoformat), ("stripe_created", .int event.created)]

/-- Common body of the dispatched handlers: they write the outcome into the receipt they are given. -/
def markProcessed (action : String) (receipt : DictRef) : HandlerM DictRef := do
  write receipt "status" "processed"
  write receipt "action" action
  return receipt

/-- `_handle_payment_succeeded`. -/
def handlePaymentSucceeded : DictRef → HandlerM DictRef := markProcessed "fulfill_order"

/-- `_handle_payment_failed`. -/
def handlePaymentFailed : DictRef → HandlerM DictRef := markProcessed "notify_failure"

/-- `_handle_charge_refunded`. -/
def handleChargeRefunded : DictRef → HandlerM DictRef := markProcessed "process_refund"

/-- Dispatch on the event type; other types are acknowledged without processing. -/
def dispatch (eventType : String) (receipt : DictRef) : HandlerM DictRef :=
  if eventType = WebhookEventType.paymentIntentSucceeded.value then handlePaymentSucceeded receipt
  else if eventType = WebhookEventType.paymentIntentFailed.value then handlePaymentFailed receipt
  else if eventType = WebhookEventType.chargeRefunded.value then handleChargeRefunded receipt
  else allocate (.ofList [("status", .str "ignored"), ("event_type", .str eventType)])

/-- Python's `x or y` on an optional text: `None` and the empty text are both false. -/
def orElseText (text : Option String) (fallback : String) : String :=
  match text with
  | some value => if value = "" then fallback else value
  | none => fallback

/-- The audit record of a replayed event. -/
def duplicateCall (event : StripeEvent) (details : DictRef) : LogCall DictRef where
  actor := "stripe_webhook"
  eventType := "webhook." ++ event.type
  outcome := "duplicate"
  transactionRef := event.id
  details := some details

/-- The audit record of an event about to be dispatched. -/
def receiptCall (event : StripeEvent) (receipt : DictRef) : LogCall DictRef where
  actor := "stripe_webhook"
  eventType := "webhook." ++ event.type
  outcome := "success"
  transactionRef := orElseText (paymentIntentId event) event.id
  details := some receipt

/-- The details logged for a replayed event. -/
def duplicateDetails (event : StripeEvent) : JsonObject :=
  .ofList [("event_id", .str event.id), ("action", .str "ack_without_processing")]

/-- `handle_event`: claim, log the receipt, dispatch. -/
def handleEvent (sha256 : String → String) (event : StripeEvent) (readings : WebhookReadings) :
    HandlerM DictRef := do
  -- The claim comes first, so a replay is audited and acknowledged without dispatch.
  let fresh ← claim event.id readings.claimedAt
  if fresh then
    let receipt ← allocate (receiptOf event readings.receivedAt)
    -- The dictionary that was logged is the one the dispatched handler writes.
    log sha256 readings.stamp (receiptCall event receipt)
    dispatch event.type receipt
  else
    let details ← allocate (duplicateDetails event)
    log sha256 readings.stamp (duplicateCall event details)
    allocate (.ofList [("status", .str "duplicate"), ("event_id", .str event.id)])

/-- One delivery: the event and what its processing reads from outside. -/
structure Delivery where
  event : StripeEvent
  readings : WebhookReadings

/-- The handler after one delivery, whether it returned or raised. -/
def deliver (sha256 : String → String) (state : HandlerState) (delivery : Delivery) : HandlerState :=
  stateAfter (handleEvent sha256 delivery.event delivery.readings) state

/-- Deliveries one after another. -/
def run (sha256 : String → String) (state : HandlerState) (deliveries : List Delivery) :
    HandlerState :=
  deliveries.foldl (deliver sha256) state

end StripeWebhookHandler

end JolCommerce
