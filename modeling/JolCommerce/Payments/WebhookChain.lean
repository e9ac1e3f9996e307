import JolCommerce.Audit.TamperEvidence
import JolCommerce.Payments.WebhookLaws

/-! When the handler's audit chain survives its own dispatch: a receipt written after it was hashed breaks it. -/

namespace JolCommerce

open Python

namespace StripeWebhookHandler

/-- The store claims the delivered event anew, so that it is dispatched. -/
def ClaimsAnew (store : WebhookEventStore) (delivery : Delivery) : Prop :=
  -- An empty id, a known id and a clock before the window all fail to claim.
  ∃ after, store.claim delivery.event.id delivery.readings.claimedAt = .ok (true, after)

/-- The event store after a delivery. -/
def storeAfter (store : WebhookEventStore) (delivery : Delivery) : WebhookEventStore :=
  match store.claim delivery.event.id delivery.readings.claimedAt with
  | .ok (_, after) => after
  | .error _ => store

/-- No delivery both claims its event anew and has a type whose handler writes the receipt. -/
def LeavesReceipts : WebhookEventStore → List Delivery → Prop
  | _, [] => True
  | store, delivery :: rest =>
    -- What counts as fresh depends on the claims made so far.
    ¬(ClaimsAnew store delivery ∧ WritesReceipt delivery.event.type) ∧
      LeavesReceipts (storeAfter store delivery) rest

/-- Every logged reference points to an existing dictionary. -/
def ValidRefs (state : HandlerState) : Prop :=
  ∀ entry ∈ state.audit.entries, entry.details < state.heap.cells.length

private theorem receiptOf_status (event : StripeEvent) (receivedAt : DateTime) :
    (receiptOf event receivedAt).get? "status" = none := by
  -- A receipt has no status before it is dispatched.
  simp [receiptOf, SortedMap.ofList, SortedMap.get?_set_of_ne]
  rfl

/-- A delivery logged one entry: `before` is what was hashed, `entry` what the log keeps. -/
structure Appends (sha256 : String → String) (state after : HandlerState) (before : AuditEntry)
    (entry : AuditEntryOf DictRef) : Prop where
  entries : after.audit.entries = state.audit.entries ++ [entry]
  hashed : after.audit.lastHash = before.computeHash sha256
  names : before.previousHash = state.audit.lastHash
  link : entry.previousHash = before.previousHash
  /-- Dictionaries that existed before are as they were. -/
  kept : ∀ ref < state.heap.cells.length, after.heap.read ref = state.heap.read ref
  grown : state.heap.cells.length ≤ after.heap.cells.length
  present : entry.details < after.heap.cells.length

/-- The log seen after a delivery: the entries seen before it, and the new one as it reads now. -/
theorem Appends.auditEntries {sha256 : String → String} {state after : HandlerState}
    {before : AuditEntry} {entry : AuditEntryOf DictRef}
    (appends : Appends sha256 state after before entry) (valid : ValidRefs state) :
    after.auditEntries = state.auditEntries ++ [entry.read after.heap.read] := by
  -- Entries logged before hold dictionaries that existed before, and these were kept.
  have old : state.audit.entries.map (AuditEntryOf.read after.heap.read) =
      state.audit.entries.map (AuditEntryOf.read state.heap.read) := by
    apply List.map_congr_left
    intro logged member
    simp [AuditEntryOf.read, appends.kept _ (valid logged member)]
  simp [HandlerState.auditEntries, appends.entries, old]

/-- References stay valid, since dictionaries are never dropped. -/
theorem Appends.validRefs {sha256 : String → String} {state after : HandlerState}
    {before : AuditEntry} {entry : AuditEntryOf DictRef}
    (appends : Appends sha256 state after before entry) (valid : ValidRefs state) :
    ValidRefs after := by
  intro logged member
  rw [appends.entries, List.mem_append, List.mem_singleton] at member
  rcases member with old | rfl
  · exact lt_of_lt_of_le (valid logged old) appends.grown
  · exact appends.present

/-- The entry logged for a dictionary just created. -/
def createdEntry (stamp : Stamp) (call : DictRef → LogCall DictRef) (state : HandlerState) :
    AuditEntryOf DictRef :=
  state.audit.entryFor stamp (call state.heap.cells.length) state.heap.cells.length

/-- Whatever later code does to the dictionaries created since, the logged entry is in place. -/
theorem appends_logged (sha256 : String → String) (stamp : Stamp) (object : JsonObject)
    (call : DictRef → LogCall DictRef) (state : HandlerState) (store : WebhookEventStore)
    (later : DictHeap) (grown : state.heap.cells.length < later.cells.length)
    (kept : ∀ ref < state.heap.cells.length, later.read ref = (state.heap.allocate object).read ref) :
    Appends sha256 state { logged sha256 stamp object call state store with heap := later }
      ((createdEntry stamp call state).read (state.heap.allocate object).read)
      (createdEntry stamp call state) where
  entries := rfl
  hashed := rfl
  names := rfl
  link := rfl
  kept := fun ref old => (kept ref old).trans (DictHeap.read_allocate_old old object)
  grown := grown.le
  present := grown

private theorem createdEntry_read_iff (stamp : Stamp) (object : JsonObject)
    (call : DictRef → LogCall DictRef) (state : HandlerState) (later : DictHeap) :
    (createdEntry stamp call state).read (state.heap.allocate object).read =
        (createdEntry stamp call state).read later.read ↔
      later.read state.heap.cells.length = object := by
  -- The logged entry reads later as it was hashed exactly when its dictionary was not changed.
  simp only [createdEntry, AuditEntryOf.read, AuditLoggerOf.entryFor, AuditEntryOf.mk.injEq,
    DictHeap.read_allocate_new, true_and, and_true]
  exact eq_comm

/-- An answer in a dictionary of its own leaves the logged entry as it was hashed. -/
theorem appends_answered (sha256 : String → String) (stamp : Stamp) (object answer : JsonObject)
    (call : DictRef → LogCall DictRef) (state : HandlerState) (store : WebhookEventStore) :
    ∃ before entry, Appends sha256 state { logged sha256 stamp object call state store with
        heap := (state.heap.allocate object).allocate answer } before entry ∧
      before = entry.read ((state.heap.allocate object).allocate answer).read := by
  refine ⟨_, _, appends_logged _ _ _ _ _ _ _ ?_ ?_, ?_⟩
  -- Both dictionaries were created after all that the log held.
  · simp only [DictHeap.allocate_length]
    omega
  · intro older old
    apply DictHeap.read_allocate_old
    rw [DictHeap.allocate_length]
    exact Nat.lt_succ_of_lt old
  · rw [createdEntry_read_iff, DictHeap.read_allocate_old (by simp), DictHeap.read_allocate_new]

/-- Marking the receipt that was logged changes the logged entry. -/
theorem appends_marked (sha256 : String → String) (stamp : Stamp) (action : String)
    {object : JsonObject} (pending : object.get? "status" = none)
    (call : DictRef → LogCall DictRef) (state : HandlerState) (store : WebhookEventStore) :
    ∃ before entry, Appends sha256 state (marked action state.heap.cells.length
        (logged sha256 stamp object call state store)) before entry ∧
      before ≠ entry.read (marked action state.heap.cells.length
        (logged sha256 stamp object call state store)).heap.read := by
  refine ⟨_, _, appends_logged sha256 stamp object call state store _ ?_ ?_, ?_⟩
  · simp [logged]
  · intro older old
    rw [DictHeap.read_write_other _ old.ne, DictHeap.read_write_other _ old.ne]
    rfl
  · -- The status was absent when the entry was hashed.
    rw [Ne, createdEntry_read_iff]
    intro same
    have status := @marked_status action state.heap.cells.length
      (logged sha256 stamp object call state store) (by simp [logged])
    rw [same, pending] at status
    cases status

/-- What one delivery does: it raises and changes nothing, or it logs one entry. -/
theorem deliver_effect (sha256 : String → String) (state : HandlerState) (delivery : Delivery) :
    (deliver sha256 state delivery).eventStore = storeAfter state.eventStore delivery ∧
    ((deliver sha256 state delivery = state ∧ ¬ClaimsAnew state.eventStore delivery) ∨
      ∃ before entry, Appends sha256 state (deliver sha256 state delivery) before entry ∧
        (before = entry.read (deliver sha256 state delivery).heap.read ↔
          ¬(ClaimsAnew state.eventStore delivery ∧ WritesReceipt delivery.event.type))) := by
  unfold ClaimsAnew storeAfter deliver
  -- The claim decides between the three outcomes of `handle_event`.
  cases claimed : state.eventStore.claim delivery.event.id delivery.readings.claimedAt with
  | error error =>
    rw [stateAfter_error (handleEvent_error claimed)]
    exact ⟨rfl, Or.inl ⟨rfl, by simp⟩⟩
  | ok result =>
    obtain ⟨fresh, store⟩ := result
    cases fresh with
    | false =>
      -- A replay: what is logged is written by nobody afterwards.
      rw [stateAfter_ok (handleEvent_duplicate claimed)]
      obtain ⟨before, entry, appends, same⟩ := appends_answered sha256 delivery.readings.stamp
        (duplicateDetails delivery.event) (duplicateAnswer delivery.event)
        (duplicateCall delivery.event) state store
      exact ⟨rfl, Or.inr ⟨before, entry, appends, by simpa using same⟩⟩
    | true =>
      -- A fresh event: the receipt that was logged is handed on to the dispatch.
      rw [stateAfter, handleEvent_fresh claimed]
      rcases dispatch_effect delivery.event.type state.heap.cells.length
        (logged sha256 delivery.readings.stamp
          (receiptOf delivery.event delivery.readings.receivedAt) (receiptCall delivery.event)
          state store) with ⟨writes, action, returned⟩ | ⟨spares, returned⟩
      · obtain ⟨before, entry, appends, differs⟩ := appends_marked sha256 delivery.readings.stamp
          action (receiptOf_status delivery.event delivery.readings.receivedAt)
          (receiptCall delivery.event) state store
        rw [returned]
        exact ⟨rfl, Or.inr ⟨before, entry, appends, by simpa [writes] using differs⟩⟩
      · obtain ⟨before, entry, appends, same⟩ := appends_answered sha256 delivery.readings.stamp
          (receiptOf delivery.event delivery.readings.receivedAt)
          (ignoredAnswer delivery.event.type) (receiptCall delivery.event) state store
        rw [returned]
        exact ⟨rfl, Or.inr ⟨before, entry, appends, by simpa [spares, logged] using same⟩⟩

/-- The log as it was hashed, entry by entry, beside the log as it reads now. -/
structure Tracked (sha256 : String → String) (state : HandlerState) (recorded : List AuditEntry) :
    Prop where
  valid : ValidRefs state
  linked : ChainLinked sha256 recorded
  head : chainHead sha256 recorded = state.audit.lastHash
  links : List.Forall₂ (fun before after => AuditEntryOf.previousHash after =
    AuditEntryOf.previousHash before) recorded state.auditEntries

/-- A fresh handler has logged nothing. -/
theorem tracked_new (sha256 : String → String) (store : WebhookEventStore) :
    Tracked sha256 (HandlerState.new store) [] where
  valid := by intro entry member; cases member
  linked := trivial
  head := rfl
  links := List.Forall₂.nil

/-- One delivery keeps both logs side by side; they part exactly when a fresh receipt is written. -/
theorem Tracked.deliver {sha256 : String → String} {state : HandlerState}
    {recorded : List AuditEntry} (tracked : Tracked sha256 state recorded) (delivery : Delivery) :
    ∃ extended, Tracked sha256 (deliver sha256 state delivery) extended ∧
      (extended = (StripeWebhookHandler.deliver sha256 state delivery).auditEntries ↔
        recorded = state.auditEntries ∧
          ¬(ClaimsAnew state.eventStore delivery ∧ WritesReceipt delivery.event.type)) := by
  rcases (deliver_effect sha256 state delivery).2 with ⟨same, unclaimed⟩ | ⟨before, entry, appends, kept⟩
  · rw [same]
    exact ⟨recorded, tracked, by simp [unclaimed]⟩
  · have reads := appends.auditEntries tracked.valid
    refine ⟨recorded ++ [before], ⟨appends.validRefs tracked.valid, ?_, ?_, ?_⟩, ?_⟩
    -- The hashed log grows by the entry as it was hashed, which names the previous hash.
    · exact (HashChain.linked_concat _ _ _ _ _).mpr
        ⟨tracked.linked, appends.names.trans tracked.head.symm⟩
    · exact (HashChain.head_concat _ _ _ _).trans appends.hashed.symm
    · rw [reads]
      exact List.rel_append tracked.links (List.Forall₂.cons appends.link List.Forall₂.nil)
    · rw [reads, ← kept]
      constructor
      · intro same
        obtain ⟨front, last⟩ := List.append_inj' same rfl
        exact ⟨front, List.singleton_inj.mp last⟩
      · intro both
        obtain ⟨front, last⟩ := both
        rw [← front, ← last]

/-- Over any deliveries the two logs stay equal exactly when no fresh receipt is written. -/
theorem Tracked.run {sha256 : String → String} {state : HandlerState} {recorded : List AuditEntry}
    (tracked : Tracked sha256 state recorded) (deliveries : List Delivery) :
    ∃ extended, Tracked sha256 (run sha256 state deliveries) extended ∧
      (extended = (StripeWebhookHandler.run sha256 state deliveries).auditEntries ↔
        recorded = state.auditEntries ∧ LeavesReceipts state.eventStore deliveries) := by
  -- One delivery at a time; the event store decides which later claims are fresh.
  induction deliveries generalizing state recorded with
  | nil => exact ⟨recorded, tracked, by simp [StripeWebhookHandler.run, LeavesReceipts]⟩
  | cons delivery rest ih =>
    obtain ⟨middle, middleTracked, middleSame⟩ := tracked.deliver delivery
    obtain ⟨extended, extendedTracked, extendedSame⟩ := ih middleTracked
    refine ⟨extended, extendedTracked, extendedSame.trans ?_⟩
    rw [middleSame, (deliver_effect sha256 state delivery).1, LeavesReceipts, and_assoc]

private theorem eq_nil_of_chainHead {sha256 : String → String}
    (nonempty : ∀ entry, AuditEntry.computeHash sha256 entry ≠ "") {entries : List AuditEntry}
    (unset : chainHead sha256 entries = "") : entries = [] := by
  -- Only the empty log has the empty hash for its head.
  by_contra filled
  obtain ⟨entry, -, head⟩ := HashChain.head_mem (AuditEntry.computeHash sha256) "" filled
  exact nonempty entry (head.symm.trans unset)

/--
After any deliveries to a fresh handler both verifications pass exactly when no freshly claimed
event had a type whose handler writes into the logged receipt.

Such a write changes the entry after its hash was taken, and the link or the head no longer fits.
-/
theorem handler_chain_intact_iff {sha256 : String → String}
    (injective : Function.Injective (AuditEntry.computeHash sha256))
    (nonempty : ∀ entry, AuditEntry.computeHash sha256 entry ≠ "")
    (store : WebhookEventStore) (deliveries : List Delivery) :
    (AuditLogger.verifyChainIntegrity sha256
        (run sha256 (HandlerState.new store) deliveries).auditEntries = true ∧
      (verifyChain sha256 (run sha256 (HandlerState.new store) deliveries).auditEntries
        (run sha256 (HandlerState.new store) deliveries).audit.lastHash).isIntact = true) ↔
      LeavesReceipts store deliveries := by
  obtain ⟨recorded, tracked, same⟩ := (tracked_new sha256 store).run deliveries
  generalize run sha256 (HandlerState.new store) deliveries = final at tracked same ⊢
  -- Two logs with equal digests entry by entry are one log.
  have digests : List.Forall₂ (fun before after => AuditEntry.computeHash sha256 after =
      AuditEntry.computeHash sha256 before) recorded final.auditEntries ↔
      recorded = final.auditEntries := by
    rw [← List.forall₂_eq_eq_eq]
    constructor
    · exact List.Forall₂.imp fun before after digest => (injective digest).symm
    · exact List.Forall₂.imp fun before after equal => by rw [equal]
  -- A log with the same links as a chain is one exactly when it has the same digests and head.
  have rewritten := @HashChain.rewritten_linked_iff _ _ (AuditEntry.computeHash sha256) _ "" ""
    recorded final.auditEntries tracked.linked tracked.links
  rw [digests, same] at rewritten
  rw [verifyChainIntegrity_iff, verifyChain_isIntact_iff]
  constructor
  · intro verified
    obtain ⟨linked, -, checkpoint⟩ := verified
    -- A checkpoint that is skipped means an empty log, since no digest is empty.
    have agrees : chainHead sha256 final.auditEntries = chainHead sha256 recorded := by
      have links := tracked.links
      rcases checkpoint with unset | empty | head
      · have none := eq_nil_of_chainHead nonempty (tracked.head.trans unset)
        rw [none] at links ⊢
        rw [List.forall₂_nil_left_iff.mp links]
      · rw [empty] at links ⊢
        rw [List.forall₂_nil_right_iff.mp links]
      · exact head.trans tracked.head.symm
    exact (rewritten.mp ⟨linked, agrees⟩).2.2
  · intro leaves
    obtain ⟨linked, head⟩ := rewritten.mpr ⟨rfl, rfl, leaves⟩
    exact ⟨linked, linked, Or.inr (Or.inr (head.trans tracked.head))⟩

/-- An empty event store with the default retention. -/
def sampleStore : WebhookEventStore := ⟨minimumRetention, Dict.empty, le_refl _⟩

/-- A delivery of an event about one payment intent. -/
def sampleDelivery (eventId eventType : String) : Delivery where
  event := ⟨eventId, eventType, 1786527000, ⟨none, some "pi_1"⟩⟩
  readings := ⟨Stamp.sample.moment, Stamp.sample.moment, Stamp.sample⟩

/-- An event the handler only acknowledges, and its replay, leave an intact chain. -/
theorem handler_chain_intact_acknowledged :
    AuditLogger.verifyChainIntegrity id (run id (HandlerState.new sampleStore)
        [sampleDelivery "evt_1" "charge.dispute.created",
          sampleDelivery "evt_1" "charge.dispute.created"]).auditEntries = true ∧
      (verifyChain id (run id (HandlerState.new sampleStore)
        [sampleDelivery "evt_1" "charge.dispute.created",
          sampleDelivery "evt_1" "charge.dispute.created"]).auditEntries
        (run id (HandlerState.new sampleStore)
          [sampleDelivery "evt_1" "charge.dispute.created",
            sampleDelivery "evt_1" "charge.dispute.created"]).audit.lastHash).isIntact = true :=
  (handler_chain_intact_iff (AuditEntry.computeHash_injective Function.injective_id)
    computeHash_id_ne_empty sampleStore _).mpr
    ⟨fun writes => absurd writes.2 (by decide), fun writes => absurd writes.2 (by decide), trivial⟩

/-- Two successful payments leave a chain that neither verification accepts. -/
theorem handler_chain_broken_by_payments :
    AuditLogger.verifyChainIntegrity id (run id (HandlerState.new sampleStore)
        [sampleDelivery "evt_1" "payment_intent.succeeded",
          sampleDelivery "evt_2" "payment_intent.succeeded"]).auditEntries = false ∧
      (verifyChain id (run id (HandlerState.new sampleStore)
        [sampleDelivery "evt_1" "payment_intent.succeeded",
          sampleDelivery "evt_2" "payment_intent.succeeded"]).auditEntries
        (run id (HandlerState.new sampleStore)
          [sampleDelivery "evt_1" "payment_intent.succeeded",
            sampleDelivery "evt_2" "payment_intent.succeeded"]).audit.lastHash).isIntact = false ∧
      Function.Injective (AuditEntry.computeHash id) := by
  have broken : AuditLogger.verifyChainIntegrity id (run id (HandlerState.new sampleStore)
      [sampleDelivery "evt_1" "payment_intent.succeeded",
        sampleDelivery "evt_2" "payment_intent.succeeded"]).auditEntries = false := by
    decide +kernel
  refine ⟨broken, ?_, AuditEntry.computeHash_injective Function.injective_id⟩
  -- Both verifications ask for the same links, whatever the checkpoint says.
  rw [Bool.eq_false_iff]
  intro intact
  have linked := ((verifyChain_isIntact_iff _ _ _).mp intact).1
  rw [(verifyChainIntegrity_iff _ _).mpr linked] at broken
  cases broken

end StripeWebhookHandler

end JolCommerce
