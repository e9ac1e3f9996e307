import JolCommerce.Payments.WebhookLaws
import JolCommerce.Run.Frame

/-! A webhook that fails after its claim: the claim is kept, and the event is never processed. -/

namespace JolCommerce

open Python

namespace StripeWebhookHandler

/-- The places where processing can raise once an event is claimed, in the order they are reached. -/
inductive Stage where
  /-- The event's data and its time of creation are read for the receipt. -/
  | reading
  /-- The audit entry is created, and not yet appended. -/
  | entering
  /-- The appended entry is serialised and hashed. -/
  | hashing
  /-- The dispatched handler is entered. -/
  | handling
  /-- It has written the status and not the action. -/
  | marking
  /-- It has written both. -/
  | answering
  deriving DecidableEq

/-- What is raised at each place, if anything. -/
abbrev Faults := Stage → Option PyError

section Faulty

variable (faults : Faults)

/-- Raise what the fault at a place raises. -/
def reach (stage : Stage) : HandlerM Unit :=
  match faults stage with
  | none => pure ()
  | some error => throw error

/-- The dictionary that an audit entry holds: `details or {}`. -/
def heldDetails (call : LogCall DictRef) : HandlerM DictRef := do
  let state ← get
  match call.details with
  | some ref => if (state.heap.read ref).isEmpty then allocate SortedMap.empty else pure ref
  | none => allocate SortedMap.empty

/-- `log` with its faults: an entry that cannot be hashed has been appended already. -/
def logWith (sha256 : String → String) (stamp : Stamp) (call : LogCall DictRef) :
    HandlerM Unit := do
  let details ← heldDetails call
  reach faults .entering
  let state ← get
  let entry := state.audit.entryFor stamp call details
  modify fun state => { state with
    audit := { state.audit with entries := state.audit.entries ++ [entry] } }
  reach faults .hashing
  modify fun state => { state with
    audit := { state.audit with
      lastHash := AuditEntry.computeHash sha256 (entry.read state.heap.read) } }

/-- `markProcessed` with its faults. -/
def markProcessedWith (action : String) (receipt : DictRef) : HandlerM DictRef := do
  reach faults .handling
  write receipt "status" "processed"
  reach faults .marking
  write receipt "action" action
  reach faults .answering
  return receipt

/-- `dispatch` with its faults. -/
def dispatchWith (eventType : String) (receipt : DictRef) : HandlerM DictRef :=
  if eventType = WebhookEventType.paymentIntentSucceeded.value then
    markProcessedWith faults "fulfill_order" receipt
  else if eventType = WebhookEventType.paymentIntentFailed.value then
    markProcessedWith faults "notify_failure" receipt
  else if eventType = WebhookEventType.chargeRefunded.value then
    markProcessedWith faults "process_refund" receipt
  else do
    reach faults .handling
    allocate (.ofList [("status", .str "ignored"), ("event_type", .str eventType)])

/-- What follows the claim of a fresh event. -/
def processWith (sha256 : String → String) (event : StripeEvent) (readings : WebhookReadings) :
    HandlerM DictRef := do
  reach faults .reading
  let receipt ← allocate (receiptOf event readings.receivedAt)
  logWith faults sha256 readings.stamp (receiptCall event receipt)
  dispatchWith faults event.type receipt

/-- `handle_event` with its faults; nothing gives the claim back. -/
def handleEventWith (sha256 : String → String) (event : StripeEvent)
    (readings : WebhookReadings) : HandlerM DictRef := do
  let fresh ← claim event.id readings.claimedAt
  if fresh then processWith faults sha256 event readings
  else
    let details ← allocate (duplicateDetails event)
    logWith faults sha256 readings.stamp (duplicateCall event details)
    allocate (duplicateAnswer event)

end Faulty

private theorem logWith_none (sha256 : String → String) (stamp : Stamp) (call : LogCall DictRef) :
    logWith (fun _ => none) sha256 stamp call = log sha256 stamp call := by
  have reads : ∀ state : HandlerState,
      (EStateM.get : EStateM PyError HandlerState HandlerState) state = .ok state state :=
    fun _ => rfl
  -- The entry is appended and hashed in one update or in two.
  funext state
  unfold logWith log heldDetails
  cases held : call.details with
  | none => rfl
  | some ref =>
    by_cases empty : (state.heap.read ref).isEmpty = true
    · simp only [bind, EStateM.bind, get, getThe, MonadStateOf.get, reads, empty, if_true]
      rfl
    · simp only [bind, EStateM.bind, get, getThe, MonadStateOf.get, reads, empty]
      rfl

/-- Without faults this is the handler. -/
theorem handleEventWith_none (sha256 : String → String) (event : StripeEvent)
    (readings : WebhookReadings) :
    handleEventWith (fun _ => none) sha256 event readings = handleEvent sha256 event readings := by
  have logs : logWith (fun _ => none) = log := by
    funext sha256 stamp call
    exact logWith_none sha256 stamp call
  unfold handleEventWith processWith handleEvent
  rw [logs]
  rfl

section Failure

variable {faults : Faults} {sha256 : String → String}

private theorem keeps_reach (stage : Stage) : Run.Keeps HandlerState.eventStore (reach faults stage) := by
  unfold reach
  split
  · exact Run.keeps_pure ()
  · exact Run.keeps_throw _

private theorem keeps_heldDetails (call : LogCall DictRef) :
    Run.Keeps HandlerState.eventStore (heldDetails call) := by
  unfold heldDetails
  apply Run.keeps_get_bind
  intro state
  split
  · split
    · exact Run.keeps_modifyGet fun _ => rfl
    · exact Run.keeps_pure _
  · exact Run.keeps_modifyGet fun _ => rfl

private theorem keeps_logWith (stamp : Stamp) (call : LogCall DictRef) :
    Run.Keeps HandlerState.eventStore (logWith faults sha256 stamp call) := by
  -- Logging touches the heap and the log.
  unfold logWith
  refine Run.keeps_bind (keeps_heldDetails call) fun details => ?_
  refine Run.keeps_bind (keeps_reach _) fun _ => ?_
  refine Run.keeps_get_bind fun state => ?_
  refine Run.keeps_bind (Run.keeps_modifyGet fun _ => rfl) fun _ => ?_
  exact Run.keeps_bind (keeps_reach _) fun _ => Run.keeps_modifyGet fun _ => rfl

private theorem keeps_markProcessedWith (action : String) (receipt : DictRef) :
    Run.Keeps HandlerState.eventStore (markProcessedWith faults action receipt) := by
  unfold markProcessedWith
  refine Run.keeps_bind (keeps_reach _) fun _ => ?_
  refine Run.keeps_bind (Run.keeps_modifyGet fun _ => rfl) fun _ => ?_
  refine Run.keeps_bind (keeps_reach _) fun _ => ?_
  refine Run.keeps_bind (Run.keeps_modifyGet fun _ => rfl) fun _ => ?_
  exact Run.keeps_bind (keeps_reach _) fun _ => Run.keeps_pure _

/-- Nothing after the claim touches the table of processed events. -/
theorem keeps_processWith (event : StripeEvent) (readings : WebhookReadings) :
    Run.Keeps HandlerState.eventStore (processWith faults sha256 event readings) := by
  -- Receipt, log and processing marks lie outside the table of claimed events.
  unfold processWith dispatchWith
  refine Run.keeps_bind (keeps_reach _) fun _ => ?_
  refine Run.keeps_bind (Run.keeps_modifyGet fun _ => rfl) fun receipt => ?_
  refine Run.keeps_bind (keeps_logWith _ _) fun _ => ?_
  split_ifs
  · exact keeps_markProcessedWith _ _
  · exact keeps_markProcessedWith _ _
  · exact keeps_markProcessedWith _ _
  · exact Run.keeps_bind (keeps_reach _) fun _ => Run.keeps_modifyGet fun _ => rfl

/-- The table after a fresh event was claimed. -/
private theorem claim_fresh {store : WebhookEventStore} {eventId : String} {moment : DateTime}
    (named : eventId ≠ "") (unclaimed : store.recent moment eventId = none)
    (inRange : store.retention ≤ moment.toMicros) :
    ∃ claimed, store.claim eventId moment = .ok (true, claimed) ∧
      claimed.retention = store.retention ∧
      claimed.processed.get? eventId = some ⟨eventId, moment⟩ := by
  -- An overflow or a replay contradicts the hypotheses, so only a claim is left.
  have outcome := store.claim_outcome eventId moment
  generalize store.claim eventId moment = result at outcome ⊢
  cases outcome with
  | overflow early error => omega
  | replayed _ after window seen kept =>
    rcases seen with empty | seen
    · exact absurd empty named
    · rw [unclaimed] at seen
      cases seen
  | claimed _ after window _ _ kept =>
    refine ⟨after, rfl, window, ?_⟩
    rw [kept, if_pos rfl]

/-- Within the retention of a record its event is refused as a replay. -/
private theorem claim_replay {store : WebhookEventStore} {eventId : String}
    {claimedAt moment : DateTime}
    (claimed : store.processed.get? eventId = some ⟨eventId, claimedAt⟩)
    (inRange : store.retention ≤ moment.toMicros)
    (inWindow : (moment.toMicros : Int) ≤ claimedAt.toMicros + store.retention) :
    ∃ after, store.claim eventId moment = .ok (false, after) := by
  -- The record is still young at this moment, so the claim sees it.
  have seen : store.recent moment eventId = some ⟨eventId, claimedAt⟩ := by
    have young : ¬(claimedAt.toMicros : Int) < (moment.toMicros : Int) - store.retention := by omega
    simp [WebhookEventStore.recent, claimed, young]
  have outcome := store.claim_outcome eventId moment
  generalize store.claim eventId moment = result at outcome ⊢
  cases outcome with
  | overflow early error => omega
  | replayed _ after window _ kept => exact ⟨after, rfl⟩
  | claimed _ after window _ unseen kept =>
    rw [seen] at unseen
    cases unseen

/-- What a failed delivery leaves of the table: the event is on record, as if it had succeeded. -/
theorem handleEventWith_error {event : StripeEvent} {readings : WebhookReadings}
    {state after : HandlerState} {error : PyError} (named : event.id ≠ "")
    (unclaimed : state.eventStore.recent readings.claimedAt event.id = none)
    (inRange : state.eventStore.retention ≤ readings.claimedAt.toMicros)
    (raised : (handleEventWith faults sha256 event readings).run state = .error error after) :
    after.eventStore.retention = state.eventStore.retention ∧
      after.eventStore.processed.get? event.id = some ⟨event.id, readings.claimedAt⟩ := by
  obtain ⟨store, claimed, window, recorded⟩ := claim_fresh named unclaimed inRange
  -- The claim has returned, so it was the processing that raised.
  have processing : (processWith faults sha256 event readings).run
      { state with eventStore := store } = .error error after := by
    rw [← raised]
    simp [handleEventWith, claim, claimed]
  have kept : after.eventStore = store := (keeps_processWith event readings).error processing
  rw [kept]
  exact ⟨window, recorded⟩

end Failure

/-- A delivery is answered with a status. -/
def AnsweredAs (sha256 : String → String) (event : StripeEvent) (readings : WebhookReadings)
    (state : HandlerState) (status : String) : Prop :=
  ∃ answer after, (handleEvent sha256 event readings).run state = .ok answer after ∧
    (after.heap.read answer).get? "status" = some (.str status)

/-- The readings of a delivery that comes after a claim and within the retention of it. -/
def InWindow (state : HandlerState) (claimedAt : DateTime) (again : WebhookReadings) : Prop :=
  claimedAt.toMicros ≤ again.claimedAt.toMicros ∧
    (again.claimedAt.toMicros : Int) ≤ claimedAt.toMicros + state.eventStore.retention

/-- A failed event can still be processed: it is unclaimed, and its next delivery is dispatched. -/
def NotLost (sha256 : String → String) (event : StripeEvent) (claimedAt : DateTime)
    (state : HandlerState) : Prop :=
  state.eventStore.processed.get? event.id = none ∧
    ∀ again, InWindow state claimedAt again →
      ∃ status, status ≠ "duplicate" ∧ AnsweredAs sha256 event again state status

/-- An event on record is acknowledged as a duplicate throughout the window. -/
theorem answeredAs_duplicate (sha256 : String → String) {event : StripeEvent}
    {claimedAt : DateTime} {state : HandlerState}
    (claimed : state.eventStore.processed.get? event.id = some ⟨event.id, claimedAt⟩)
    (inRange : state.eventStore.retention ≤ claimedAt.toMicros) {again : WebhookReadings}
    (inWindow : InWindow state claimedAt again) :
    AnsweredAs sha256 event again state "duplicate" := by
  obtain ⟨later, early⟩ := inWindow
  obtain ⟨store, refused⟩ := claim_replay claimed (by omega) early
  obtain ⟨answer, after, status, returned, answered, told⟩ := handleEvent_answered sha256 refused
  have duplicate : status = "duplicate" := told.mpr rfl
  exact ⟨answer, after, returned, duplicate ▸ answered.status⟩

/--
Whatever raises after the claim of an event, the event is lost: it stays on record, and every
delivery of it within the retention is acknowledged as a duplicate.

No step after the claim gives it back, so this does not depend on the place of the failure.
-/
theorem failed_webhook_lost (faults : Faults) (sha256 : String → String) {event : StripeEvent}
    {readings : WebhookReadings} {state after : HandlerState} {error : PyError}
    (named : event.id ≠ "")
    (unclaimed : state.eventStore.recent readings.claimedAt event.id = none)
    (inRange : state.eventStore.retention ≤ readings.claimedAt.toMicros)
    (raised : (handleEventWith faults sha256 event readings).run state = .error error after) :
    ¬NotLost sha256 event readings.claimedAt after ∧
      ∀ again, InWindow after readings.claimedAt again →
        AnsweredAs sha256 event again after "duplicate" := by
  obtain ⟨window, claimed⟩ := handleEventWith_error named unclaimed inRange raised
  constructor
  · intro notLost
    rw [notLost.1] at claimed
    cases claimed
  · intro again inWindow
    exact answeredAs_duplicate sha256 claimed (by rw [window]; exact inRange) inWindow

/-- A payment that succeeded. -/
def samplePayment : StripeEvent :=
  ⟨"evt_1", "payment_intent.succeeded", 1786527000, ⟨some (some "pi_1"), none⟩⟩

/-- Every reading is the sample instant. -/
def sampleReadings : WebhookReadings := ⟨Stamp.sample.moment, Stamp.sample.moment, Stamp.sample⟩

/-- A handler just constructed with the default retention. -/
def sampleState : HandlerState := HandlerState.new ⟨minimumRetention, Dict.empty, Int.le_refl _⟩

/-- The dispatched handler raises when it is entered. -/
def sampleFaults : Faults := fun stage =>
  if stage = .handling then some (.callbackError "database is locked") else none

private theorem sample_raises : ∃ error after,
    (handleEventWith sampleFaults id samplePayment sampleReadings).run sampleState =
      .error error after :=
  ⟨_, _, rfl⟩

/-- A payment whose handler raised is acknowledged as a duplicate when Stripe delivers it again. -/
theorem failed_webhook_lost_in_handler : ∃ error after,
    (handleEventWith sampleFaults id samplePayment sampleReadings).run sampleState =
        .error error after ∧
      ¬NotLost id samplePayment sampleReadings.claimedAt after ∧
      AnsweredAs id samplePayment sampleReadings after "duplicate" := by
  obtain ⟨error, after, raised⟩ := sample_raises
  have lost := failed_webhook_lost sampleFaults id (by decide) (by rfl) (by decide) raised
  have admissible := after.eventStore.admissible
  refine ⟨error, after, raised, lost.1, lost.2 sampleReadings ⟨le_refl _, ?_⟩⟩
  simp only [minimumRetention] at admissible
  omega

/-- Not every event that failed after its claim can still be processed. -/
theorem failed_webhook_not_redelivered : ¬∀ (faults : Faults) (event : StripeEvent)
    (readings : WebhookReadings) (state after : HandlerState) (error : PyError),
    event.id ≠ "" → state.eventStore.recent readings.claimedAt event.id = none →
    state.eventStore.retention ≤ readings.claimedAt.toMicros →
    (handleEventWith faults id event readings).run state = .error error after →
    NotLost id event readings.claimedAt after := by
  intro claim
  obtain ⟨error, after, raised⟩ := sample_raises
  have notLost := claim sampleFaults samplePayment sampleReadings sampleState after error
    (by decide) (by rfl) (by decide) raised
  have claimed := (handleEventWith_error (by decide) (by rfl) (by decide) raised).2
  rw [notLost.1] at claimed
  cases claimed

end StripeWebhookHandler

end JolCommerce
