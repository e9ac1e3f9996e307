import JolCommerce.Payments.WebhookHandler

/-! What one event does to the handler: the claim decides, then the log and the dispatch follow. -/

namespace JolCommerce

open Python

namespace DictHeap

/-- Creating a dictionary changes no dictionary created before. -/
theorem read_allocate_old {heap : DictHeap} {ref : DictRef} (old : ref < heap.cells.length)
    (object : JsonObject) : (heap.allocate object).read ref = heap.read ref := by
  simp [read, allocate, List.getElem?_append_left old]

/-- A new dictionary holds what it was created with. -/
theorem read_allocate_new (heap : DictHeap) (object : JsonObject) :
    (heap.allocate object).read heap.cells.length = object := by
  simp [read, allocate]

/-- A write is seen through the reference it was made through. -/
theorem read_write_self {heap : DictHeap} {ref : DictRef} (present : ref < heap.cells.length)
    (key : String) (value : JsonValue) :
    (heap.write ref key value).read ref = (heap.read ref).set key value := by
  simp [read, write, present]

/-- A write is not seen through any other reference. -/
theorem read_write_other (heap : DictHeap) {ref other : DictRef} (different : other ≠ ref)
    (key : String) (value : JsonValue) : (heap.write ref key value).read other = heap.read other := by
  simp [read, write, List.getElem?_set_ne (Ne.symm different)]

/-- A write creates no dictionary. -/
@[simp] theorem write_length (heap : DictHeap) (ref : DictRef) (key : String) (value : JsonValue) :
    (heap.write ref key value).cells.length = heap.cells.length := by
  simp [write]

/-- A creation adds one dictionary. -/
@[simp] theorem allocate_length (heap : DictHeap) (object : JsonObject) :
    (heap.allocate object).cells.length = heap.cells.length + 1 := by
  simp [allocate]

end DictHeap

namespace StripeWebhookHandler

/-- The event types whose handler writes into the receipt it is given. -/
def WritesReceipt (eventType : String) : Prop :=
  eventType = WebhookEventType.paymentIntentSucceeded.value ∨
    eventType = WebhookEventType.paymentIntentFailed.value ∨
    eventType = WebhookEventType.chargeRefunded.value

instance (eventType : String) : Decidable (WritesReceipt eventType) :=
  inferInstanceAs (Decidable (_ ∨ _ ∨ _))

private theorem log_shares (sha256 : String → String) (stamp : Stamp) {call : LogCall DictRef}
    {ref : DictRef} {state : HandlerState} (present : call.details = some ref)
    (filled : (state.heap.read ref).isEmpty = false) :
    (log sha256 stamp call).run state = .ok () { state with
      audit := state.audit.append sha256 state.heap.read
        (state.audit.entryFor stamp call ref) } := by
  -- Logging a reference to a dictionary that has an entry stores that very reference.
  simp [log, present, filled]

private theorem set_isEmpty (object : JsonObject) (key : String) (value : JsonValue) :
    (object.set key value).isEmpty = false := by
  -- An empty result would not read the assigned key back.
  have read := SortedMap.get?_set_self object key value
  cases fields : (object.set key value).fields with
  | nil => simp [SortedMap.get?, fields] at read
  | cons field rest => simp [SortedMap.isEmpty, fields]

/-- A claim that raises leaves the handler as it was. -/
theorem handleEvent_error {sha256 : String → String} {event : StripeEvent}
    {readings : WebhookReadings} {state : HandlerState} {error : PyError}
    (raised : state.eventStore.claim event.id readings.claimedAt = .error error) :
    (handleEvent sha256 event readings).run state = .error error state := by
  simp [handleEvent, claim, raised]

/-- The handler after it created a dictionary and logged a reference to it. -/
def logged (sha256 : String → String) (stamp : Stamp) (object : JsonObject)
    (call : DictRef → LogCall DictRef) (state : HandlerState) (store : WebhookEventStore) :
    HandlerState where
  heap := state.heap.allocate object
  audit := state.audit.append sha256 (state.heap.allocate object).read
    (state.audit.entryFor stamp (call state.heap.cells.length) state.heap.cells.length)
  eventStore := store

private theorem log_created (sha256 : String → String) (stamp : Stamp) {object : JsonObject}
    {call : DictRef → LogCall DictRef} (state : HandlerState) (store : WebhookEventStore)
    (shared : ∀ ref, (call ref).details = some ref) (filled : object.isEmpty = false) :
    (log sha256 stamp (call state.heap.cells.length)).run
        ⟨state.heap.allocate object, state.audit, store⟩ =
      .ok () (logged sha256 stamp object call state store) := by
  -- Logging a dictionary just created, where it has an entry.
  rw [log_shares sha256 stamp (shared _) (by rw [DictHeap.read_allocate_new]; exact filled)]
  rfl

/-- The answer to a replayed event. -/
def duplicateAnswer (event : StripeEvent) : JsonObject :=
  .ofList [("status", .str "duplicate"), ("event_id", .str event.id)]

/-- The answer to an event of a type that is not processed. -/
def ignoredAnswer (eventType : String) : JsonObject :=
  .ofList [("status", .str "ignored"), ("event_type", .str eventType)]

/-- A replay is logged with details of its own and answered with another dictionary. -/
theorem handleEvent_duplicate {sha256 : String → String} {event : StripeEvent}
    {readings : WebhookReadings} {state : HandlerState} {store : WebhookEventStore}
    (replayed : state.eventStore.claim event.id readings.claimedAt = .ok (false, store)) :
    (handleEvent sha256 event readings).run state = .ok (state.heap.cells.length + 1)
      { logged sha256 readings.stamp (duplicateDetails event) (duplicateCall event) state store with
        heap := (state.heap.allocate (duplicateDetails event)).allocate (duplicateAnswer event) } := by
  -- The details are logged first; the answer is a second dictionary that the log does not hold.
  have shared : ∀ ref, (duplicateCall event ref).details = some ref := fun _ => rfl
  have filled : (duplicateDetails event).isEmpty = false := set_isEmpty _ _ _
  simp [handleEvent, claim, allocate, replayed,
    log_created sha256 readings.stamp state store shared filled, logged, duplicateAnswer]

/-- A fresh event is logged and then dispatched with the receipt that was logged. -/
theorem handleEvent_fresh {sha256 : String → String} {event : StripeEvent}
    {readings : WebhookReadings} {state : HandlerState} {store : WebhookEventStore}
    (claimed : state.eventStore.claim event.id readings.claimedAt = .ok (true, store)) :
    (handleEvent sha256 event readings).run state =
      (dispatch event.type state.heap.cells.length).run
        (logged sha256 readings.stamp (receiptOf event readings.receivedAt) (receiptCall event)
          state store) := by
  -- Up to the dispatch nothing depends on the type of the event.
  have shared : ∀ ref, (receiptCall event ref).details = some ref := fun _ => rfl
  have filled : (receiptOf event readings.receivedAt).isEmpty = false := set_isEmpty _ _ _
  simp [handleEvent, claim, allocate, claimed,
    log_created sha256 readings.stamp state store shared filled]

/-- The handler after the outcome was written into a receipt. -/
def marked (action : String) (receipt : DictRef) (state : HandlerState) : HandlerState :=
  let heap := state.heap.write receipt "status" (.str "processed")
  { state with heap := heap.write receipt "action" (.str action) }

/-- Dispatch writes two keys of the receipt, or creates an answer and leaves the receipt alone. -/
theorem dispatch_effect (eventType : String) (receipt : DictRef) (state : HandlerState) :
    (WritesReceipt eventType ∧ ∃ action, (dispatch eventType receipt).run state =
      .ok receipt (marked action receipt state)) ∨
    (¬WritesReceipt eventType ∧ (dispatch eventType receipt).run state =
      .ok state.heap.cells.length
        { state with heap := state.heap.allocate (ignoredAnswer eventType) }) := by
  -- Three types share one body, all others get a dictionary of their own.
  unfold WritesReceipt dispatch
  split_ifs with succeeded failed refunded
  · exact Or.inl ⟨Or.inl succeeded, _, rfl⟩
  · exact Or.inl ⟨Or.inr (Or.inl failed), _, rfl⟩
  · exact Or.inl ⟨Or.inr (Or.inr refunded), _, rfl⟩
  · exact Or.inr ⟨by tauto, rfl⟩

/-- A marked receipt has a status. -/
theorem marked_status {action : String} {receipt : DictRef} {state : HandlerState}
    (present : receipt < state.heap.cells.length) :
    ((marked action receipt state).heap.read receipt).get? "status" = some (.str "processed") := by
  unfold marked
  rw [DictHeap.read_write_self (by simpa using present), DictHeap.read_write_self present,
    SortedMap.get?_set_of_ne _ _ (by decide), SortedMap.get?_set_self]

/-- An event that was answered: one audit entry, the claim's table, and a status in the answer. -/
structure Answered (state after : HandlerState) (answer : DictRef) (store : WebhookEventStore)
    (outcome status : String) : Prop where
  logged : ∃ entry, after.audit.entries = state.audit.entries ++ [entry] ∧ entry.outcome = outcome
  store : after.eventStore = store
  status : (after.heap.read answer).get? "status" = some (.str status)

/-- Once the claim has returned, an event is answered as a duplicate or as dispatched. -/
theorem handleEvent_answered (sha256 : String → String) {event : StripeEvent}
    {readings : WebhookReadings} {state : HandlerState} {fresh : Bool} {store : WebhookEventStore}
    (claimed : state.eventStore.claim event.id readings.claimedAt = .ok (fresh, store)) :
    ∃ answer after status, (handleEvent sha256 event readings).run state = .ok answer after ∧
      Answered state after answer store (if fresh then "success" else "duplicate") status ∧
      (status = "duplicate" ↔ fresh = false) := by
  cases fresh with
  | false =>
    refine ⟨_, _, "duplicate", handleEvent_duplicate claimed, ⟨⟨_, rfl, rfl⟩, rfl, ?_⟩, by simp⟩
    -- The answer is the second of the two dictionaries created for it.
    have last : state.heap.cells.length + 1 =
        (state.heap.allocate (duplicateDetails event)).cells.length := by simp
    rw [last, DictHeap.read_allocate_new]
    simp [duplicateAnswer, SortedMap.ofList, SortedMap.get?_set_of_ne]
  | true =>
    rw [handleEvent_fresh claimed]
    -- The receipt was created just before, so that the dispatched handler marks it.
    rcases dispatch_effect event.type state.heap.cells.length
      (logged sha256 readings.stamp (receiptOf event readings.receivedAt) (receiptCall event)
        state store) with ⟨_, action, returned⟩ | ⟨_, returned⟩
    · refine ⟨_, _, "processed", returned, ⟨⟨_, rfl, rfl⟩, rfl, ?_⟩, by simp⟩
      exact marked_status (by simp [logged])
    · refine ⟨_, _, "ignored", returned, ⟨⟨_, rfl, rfl⟩, rfl, ?_⟩, by simp⟩
      rw [DictHeap.read_allocate_new]
      simp [ignoredAnswer, SortedMap.ofList, SortedMap.get?_set_of_ne]

end StripeWebhookHandler

end JolCommerce
