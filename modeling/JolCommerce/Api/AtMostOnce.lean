import JolCommerce.Api.RoutesPayment
import JolCommerce.Payments.WebhookLaws
import JolCommerce.Run.Invariant

/-! Over the whole life of the webhook route an event is dispatched at most once and always logged. -/

namespace JolCommerce

open Python

namespace RoutesPayment

/-- The handler, and the ids of the events it has dispatched so far, oldest first. -/
structure Endpoint where
  handler : HandlerState
  dispatched : List String

section Reception

variable (constructEvent : String → String → Except ConstructError StripeEvent)
  (sha256 : String → String)

/-- The id of the event that a request makes the handler dispatch. -/
def dispatchedBy (handler : HandlerState) (post : WebhookPost) : Option String :=
  match verified constructEvent post,
      (handleStripeWebhook constructEvent sha256 post).run handler with
  -- Every answer but `duplicate` comes from a dispatch.
  | .ok event, .ok response _ => if response.status = "duplicate" then none else some event.id
  | _, _ => none

/-- The endpoint after one request, whether it was answered or raised. -/
def receive (endpoint : Endpoint) (post : WebhookPost) : Endpoint where
  handler := stateAfter (handleStripeWebhook constructEvent sha256 post) endpoint.handler
  dispatched := endpoint.dispatched ++
    (dispatchedBy constructEvent sha256 endpoint.handler post).toList

/-- A request that passes verification appends one audit entry, which tells how it was answered. -/
def AuditedOnce (endpoint : Endpoint) (post : WebhookPost) : Prop :=
  ∀ event, verified constructEvent post = .ok event →
    ∃ entry, (receive constructEvent sha256 endpoint post).handler.audit.entries =
        endpoint.handler.audit.entries ++ [entry] ∧
      entry.outcome = if (dispatchedBy constructEvent sha256 endpoint.handler post).isSome then
        "success" else "duplicate"

/-- Every way a request is received: what it dispatches, and the endpoint after it. -/
inductive Reception (endpoint : Endpoint) (post : WebhookPost) :
    Option String → Endpoint → Prop where
  | rejected (error : PyError) (refused : verified constructEvent post = .error error) :
    Reception endpoint post none endpoint
  /-- The claim raised, and nothing was logged. -/
  | overflow (event : StripeEvent) (accepted : verified constructEvent post = .ok event)
    (early : (post.instant.toMicros : Int) < endpoint.handler.eventStore.retention) :
    Reception endpoint post none endpoint
  | duplicate (event : StripeEvent) (accepted : verified constructEvent post = .ok event)
    (inRange : endpoint.handler.eventStore.retention ≤ post.instant.toMicros)
    (handler : HandlerState) (window : handler.eventStore.retention =
      endpoint.handler.eventStore.retention)
    (kept : ∀ key, handler.eventStore.processed.get? key =
      endpoint.handler.eventStore.recent post.instant key)
    (entry : AuditEntryOf DictRef)
    (logged : handler.audit.entries = endpoint.handler.audit.entries ++ [entry])
    (outcome : entry.outcome = "duplicate") :
    Reception endpoint post none ⟨handler, endpoint.dispatched⟩
  | dispatched (event : StripeEvent) (accepted : verified constructEvent post = .ok event)
    (inRange : endpoint.handler.eventStore.retention ≤ post.instant.toMicros)
    (unseen : endpoint.handler.eventStore.recent post.instant event.id = none)
    (handler : HandlerState) (window : handler.eventStore.retention =
      endpoint.handler.eventStore.retention)
    (kept : ∀ key, handler.eventStore.processed.get? key = if key = event.id then
      some ⟨event.id, post.instant⟩ else endpoint.handler.eventStore.recent post.instant key)
    (entry : AuditEntryOf DictRef)
    (logged : handler.audit.entries = endpoint.handler.audit.entries ++ [entry])
    (outcome : entry.outcome = "success") :
    Reception endpoint post (some event.id) ⟨handler, endpoint.dispatched ++ [event.id]⟩

/-- A verified request whose claim raises ends with what the claim raised. -/
theorem handleStripeWebhook_refused {post : WebhookPost} {event : StripeEvent}
    (accepted : verified constructEvent post = .ok event) {handler : HandlerState} {error : PyError}
    (refused : handler.eventStore.claim event.id post.instant = .error error) :
    (handleStripeWebhook constructEvent sha256 post).run handler = .error error handler := by
  have failed : (StripeWebhookHandler.handleEvent sha256 event post.readings).run handler =
    .error error handler := StripeWebhookHandler.handleEvent_error refused
  simp [handleStripeWebhook, accepted, failed]

/-- A verified request is answered with the status its handler gave. -/
theorem handleStripeWebhook_answered {post : WebhookPost} {event : StripeEvent}
    (accepted : verified constructEvent post = .ok event) {handler after : HandlerState}
    {answer : DictRef} {store : WebhookEventStore} {outcome status : String}
    (returned : (StripeWebhookHandler.handleEvent sha256 event post.readings).run handler =
      .ok answer after)
    (answered : StripeWebhookHandler.Answered handler after answer store outcome status) :
    (handleStripeWebhook constructEvent sha256 post).run handler = .ok ⟨status⟩ after := by
  have told : statusOf (after.heap.read answer) = status := by
    rw [statusOf, answered.status]
    rfl
  simp only [handleStripeWebhook, accepted, EStateM.run_bind, returned, ← told]
  rfl

/-- A request is received in exactly these ways. -/
theorem receive_reception (endpoint : Endpoint) (post : WebhookPost) :
    Reception constructEvent endpoint post
      (dispatchedBy constructEvent sha256 endpoint.handler post)
      (receive constructEvent sha256 endpoint post) := by
  -- First the verification decides, then the claim.
  cases accepted : verified constructEvent post with
  | error error =>
    have raised : (handleStripeWebhook constructEvent sha256 post).run endpoint.handler =
        .error error endpoint.handler := by
      simp [handleStripeWebhook, accepted]
    simp only [receive, dispatchedBy, accepted, stateAfter_error raised, Option.toList_none,
      List.append_nil]
    exact .rejected error accepted
  | ok event =>
    have outcome := endpoint.handler.eventStore.claim_outcome event.id post.instant
    cases claimed : endpoint.handler.eventStore.claim event.id post.instant with
    | error error =>
      rw [claimed] at outcome
      -- The claim raises only where the window reaches back before year one.
      have raised := handleStripeWebhook_refused constructEvent sha256 accepted claimed
      cases outcome with
      | overflow early _ =>
        simp only [receive, dispatchedBy, accepted, raised, stateAfter_error raised,
          Option.toList_none, List.append_nil]
        exact .overflow event accepted early
    | ok result =>
      obtain ⟨fresh, store⟩ := result
      rw [claimed] at outcome
      -- Otherwise the event is answered, as a duplicate exactly where it was remembered.
      obtain ⟨answer, after, status, returned, answered, told⟩ :=
        @StripeWebhookHandler.handleEvent_answered sha256 event post.readings endpoint.handler
          fresh store claimed
      have responded :=
        handleStripeWebhook_answered constructEvent sha256 accepted returned answered
      obtain ⟨entry, logged, tells⟩ := answered.logged
      cases outcome with
      | replayed inRange _ window seen kept =>
        have duplicate : status = "duplicate" := told.mpr rfl
        simp only [receive, dispatchedBy, accepted, responded, stateAfter_ok responded, duplicate,
          if_true, Option.toList_none, List.append_nil]
        exact .duplicate event accepted inRange after (by rw [answered.store, window])
          (by rw [answered.store]; exact kept) entry logged tells
      | claimed inRange _ window named unseen kept =>
        have fresh : status ≠ "duplicate" := fun same => Bool.noConfusion (told.mp same)
        simp only [receive, dispatchedBy, accepted, responded, stateAfter_ok responded, fresh,
          if_false, Option.toList_some]
        exact .dispatched event accepted inRange unseen after (by rw [answered.store, window])
          (by rw [answered.store]; exact kept) entry logged tells

end Reception

/-- An event has one time of creation, which no delivery of it precedes. -/
def Dated (constructEvent : String → String → Except ConstructError StripeEvent)
    (created : String → Int) (post : WebhookPost) : Prop :=
  ∀ payload event, post.body = .ok payload →
    constructEvent payload post.stripeSignature = .ok event →
    event.created = created event.id ∧ event.created * 1000000 ≤ post.instant.unixMicros

/-- A verified event was constructed from the payload and is at most five minutes old. -/
theorem verified_fresh {constructEvent : String → String → Except ConstructError StripeEvent}
    {created : String → Int} {post : WebhookPost} {event : StripeEvent}
    (accepted : verified constructEvent post = .ok event)
    (dated : Dated constructEvent created post) :
    created event.id * 1000000 ≤ post.instant.unixMicros ∧
      post.instant.unixMicros ≤ created event.id * 1000000 + 300 * 1000000 := by
  unfold verified at accepted
  cases body : post.body with
  | error message => simp [body] at accepted
  | ok payload =>
    simp only [body, verifySignature] at accepted
    -- Only a constructed event within the tolerance is handed on.
    cases constructed : constructEvent payload post.stripeSignature with
    | error error => cases error <;> simp [constructed] at accepted
    | ok candidate =>
      by_cases stale : maxTimestampDriftSeconds * 1000000 < eventAge candidate post.instant
      · simp [constructed, stale] at accepted
      · simp only [constructed, stale, if_false, Except.ok.injEq] at accepted
        subst accepted
        obtain ⟨fixed, reached⟩ := dated payload candidate body constructed
        simp only [eventAge, maxTimestampDriftSeconds] at stale
        omega

section AtMostOnce

variable {constructEvent : String → String → Except ConstructError StripeEvent}
  {sha256 : String → String} {created : String → Int}

/-- The table holds a record of the event that is not older than the event. -/
def Remembered (created : String → Int) (store : WebhookEventStore) (eventId : String) : Prop :=
  ∃ record, store.processed.get? eventId = some record ∧
    created eventId * 1000000 ≤ record.processedAt.unixMicros

/-- At an instant an event is too old for a record of it to be kept. -/
def Outdated (created : String → Int) (eventId : String) (instant : DateTime) : Prop :=
  created eventId * 1000000 + minimumRetention < instant.unixMicros

/-- No event was dispatched twice, and each dispatched one is on record or too old for the rest. -/
structure AtMostOnce (created : String → Int) (endpoint : Endpoint) (rest : List WebhookPost) :
    Prop where
  nodup : endpoint.dispatched.Nodup
  known : ∀ eventId ∈ endpoint.dispatched,
    Remembered created endpoint.handler.eventStore eventId ∨
      ∀ post ∈ rest, Outdated created eventId post.instant

private theorem remembered_purged {store : WebhookEventStore} {eventId : String}
    (remembered : Remembered created store eventId) (instant : DateTime) :
    (∃ record, store.recent instant eventId = some record ∧
      created eventId * 1000000 ≤ record.processedAt.unixMicros) ∨
      Outdated created eventId instant := by
  -- A purge drops a record only when the whole retention has passed since it was made.
  obtain ⟨record, found, later⟩ := remembered
  by_cases expired : (record.processedAt.toMicros : Int) < (instant.toMicros : Int) - store.retention
  · right
    have admissible := store.admissible
    simp only [Outdated, DateTime.unixMicros] at later ⊢
    omega
  · left
    exact ⟨record, by simp [WebhookEventStore.recent, found, expired], later⟩

private theorem known_purged {endpoint : Endpoint} {post : WebhookPost} {rest : List WebhookPost}
    (once : AtMostOnce created endpoint (post :: rest))
    (clock : ∀ later ∈ rest, post.instant.toMicros ≤ later.instant.toMicros) {eventId : String}
    (member : eventId ∈ endpoint.dispatched) :
    (∃ record, endpoint.handler.eventStore.recent post.instant eventId = some record ∧
      created eventId * 1000000 ≤ record.processedAt.unixMicros) ∨
      ∀ later ∈ rest, Outdated created eventId later.instant := by
  rcases once.known eventId member with remembered | outdated
  · rcases remembered_purged remembered post.instant with kept | outdated
    · exact Or.inl kept
    · -- The clock does not go back, so an event that is too old stays too old.
      right
      intro later member
      have forward := clock later member
      simp only [Outdated, DateTime.unixMicros] at outdated ⊢
      omega
  · exact Or.inr fun later member => outdated later (List.mem_cons_of_mem _ member)

private theorem not_dispatched {endpoint : Endpoint} {post : WebhookPost}
    {rest : List WebhookPost} (once : AtMostOnce created endpoint (post :: rest))
    (dated : Dated constructEvent created post) {event : StripeEvent}
    (accepted : verified constructEvent post = .ok event)
    (unseen : endpoint.handler.eventStore.recent post.instant event.id = none) :
    event.id ∉ endpoint.dispatched := by
  -- The freshness window is shorter than the retention, so a fresh event is still on record.
  intro member
  have fresh := (verified_fresh accepted dated).2
  have outdated : Outdated created event.id post.instant := by
    rcases once.known event.id member with remembered | outdated
    · rcases remembered_purged remembered post.instant with kept | outdated
      · obtain ⟨record, found, -⟩ := kept
        rw [unseen] at found
        cases found
      · exact outdated
    · exact outdated post (by simp)
  simp only [Outdated, minimumRetention] at outdated
  omega

/-- One request keeps the invariant for the requests after it. -/
theorem AtMostOnce.receive {endpoint : Endpoint} {post : WebhookPost} {rest : List WebhookPost}
    (once : AtMostOnce created endpoint (post :: rest))
    (dated : Dated constructEvent created post)
    (clock : ∀ later ∈ rest, post.instant.toMicros ≤ later.instant.toMicros) :
    AtMostOnce created (receive constructEvent sha256 endpoint post) rest := by
  have reception := receive_reception constructEvent sha256 endpoint post
  -- A rejected delivery leaves the store as it was, and fewer deliveries are left.
  have unchanged : AtMostOnce created endpoint rest := by
    refine ⟨once.nodup, fun eventId member => ?_⟩
    rcases once.known eventId member with remembered | outdated
    · exact Or.inl remembered
    · exact Or.inr fun later inRest => outdated later (List.mem_cons_of_mem _ inRest)
  generalize dispatchedBy constructEvent sha256 endpoint.handler post = newly at reception
  generalize RoutesPayment.receive constructEvent sha256 endpoint post = after at reception ⊢
  cases reception with
  | rejected error refused => exact unchanged
  | overflow event accepted early => exact unchanged
  -- A duplicate only drops what is too old to be delivered again.
  | duplicate event accepted inRange handler window kept entry logged outcome =>
    refine ⟨once.nodup, fun eventId member => ?_⟩
    rcases known_purged once clock member with ⟨record, found, later⟩ | outdated
    · exact Or.inl ⟨record, by rw [kept]; exact found, later⟩
    · exact Or.inr outdated
  | dispatched event accepted inRange unseen handler window kept entry logged outcome =>
    -- An event that the store does not remember was not dispatched before.
    have new := not_dispatched once dated accepted unseen
    refine ⟨?_, fun eventId member => ?_⟩
    · exact once.nodup.append (List.nodup_singleton _) (by simpa using new)
    · rcases List.mem_append.mp member with old | last
      · rcases known_purged once clock old with ⟨record, found, later⟩ | outdated
        · have different : eventId ≠ event.id := fun same => new (same ▸ old)
          exact Or.inl ⟨record, by rw [kept, if_neg different]; exact found, later⟩
        · exact Or.inr outdated
      · -- The event just dispatched is on record with the instant of its delivery.
        obtain rfl := List.mem_singleton.mp last
        exact Or.inl ⟨⟨event.id, post.instant⟩, by rw [kept, if_pos rfl],
          (verified_fresh accepted dated).1⟩

/-- Over any requests in the order of the clock no event is dispatched twice. -/
theorem dispatched_nodup {endpoint : Endpoint} {posts : List WebhookPost}
    (once : AtMostOnce created endpoint posts)
    (dated : ∀ post ∈ posts, Dated constructEvent created post)
    (clock : posts.Pairwise fun earlier later => earlier.instant.toMicros ≤ later.instant.toMicros) :
    (posts.foldl (receive constructEvent sha256) endpoint).dispatched.Nodup := by
  -- The invariant always speaks about the requests still to come.
  induction posts generalizing endpoint with
  | nil => exact once.nodup
  | cons post rest ih =>
    obtain ⟨forward, later⟩ := List.pairwise_cons.mp clock
    exact ih (once.receive (dated post (by simp)) forward)
      (fun next member => dated next (List.mem_cons_of_mem _ member)) later

/-- A request is audited exactly when its claim does not look back before year 1. -/
theorem auditedOnce_iff (endpoint : Endpoint) (post : WebhookPost) :
    AuditedOnce constructEvent sha256 endpoint post ↔ ∀ event,
      verified constructEvent post = .ok event →
        endpoint.handler.eventStore.retention ≤ post.instant.toMicros := by
  have reception := receive_reception constructEvent sha256 endpoint post
  unfold AuditedOnce
  generalize dispatchedBy constructEvent sha256 endpoint.handler post = newly at reception ⊢
  generalize receive constructEvent sha256 endpoint post = after at reception ⊢
  cases reception with
  | rejected error refused => simp [refused]
  | overflow event accepted early =>
    -- Nothing was appended, so the log cannot have grown by an entry.
    apply iff_of_false
    · intro audited
      obtain ⟨entry, grown, -⟩ := audited event accepted
      simp at grown
    · intro inRange
      exact absurd (inRange event accepted) (by omega)
  | duplicate event accepted inRange handler window kept entry logged outcome =>
    exact iff_of_true (fun _ _ => ⟨entry, logged, outcome⟩) fun _ _ => inRange
  | dispatched event accepted inRange unseen handler window kept entry logged outcome =>
    exact iff_of_true (fun _ _ => ⟨entry, logged, outcome⟩) fun _ _ => inRange

/-- No request changes the retention window. -/
theorem receive_retention (endpoint : Endpoint) (post : WebhookPost) :
    (receive constructEvent sha256 endpoint post).handler.eventStore.retention =
      endpoint.handler.eventStore.retention := by
  -- Every reception that reaches the store reports that its window is unchanged.
  have reception := receive_reception constructEvent sha256 endpoint post
  generalize dispatchedBy constructEvent sha256 endpoint.handler post = newly at reception
  generalize receive constructEvent sha256 endpoint post = after at reception ⊢
  cases reception with
  | rejected error refused => rfl
  | overflow event accepted early => rfl
  | duplicate event accepted inRange handler window kept entry logged outcome => exact window
  | dispatched event accepted inRange unseen handler window kept entry logged outcome =>
    exact window

/-- Over any requests all are audited exactly when no claim looks back before year 1. -/
theorem allSteps_audited_iff (endpoint : Endpoint) (posts : List WebhookPost) :
    Run.AllSteps (receive constructEvent sha256) (AuditedOnce constructEvent sha256) endpoint
        posts ↔
      ∀ post ∈ posts, ∀ event, verified constructEvent post = .ok event →
        endpoint.handler.eventStore.retention ≤ post.instant.toMicros := by
  induction posts generalizing endpoint with
  | nil => simp [Run.AllSteps]
  | cons post rest ih =>
    rw [Run.AllSteps, auditedOnce_iff, ih, receive_retention, List.forall_mem_cons]

/--
Over any requests to the webhook route, in the order of the clock and from any state of the handler,
each event is dispatched at most once and each verified request appends one entry that tells how it
was answered, exactly when the retention never reaches back before year 1.

The first half needs no condition: an event is refused five minutes after its creation, long before
the table forgets it. The second half fails where the cutoff of the purge is no date.
-/
theorem webhook_dispatched_once_iff (handler : HandlerState) {posts : List WebhookPost}
    (dated : ∀ post ∈ posts, Dated constructEvent created post)
    (clock : posts.Pairwise fun earlier later => earlier.instant.toMicros ≤ later.instant.toMicros) :
    ((posts.foldl (receive constructEvent sha256) ⟨handler, []⟩).dispatched.Nodup ∧
      Run.AllSteps (receive constructEvent sha256) (AuditedOnce constructEvent sha256)
        ⟨handler, []⟩ posts) ↔
      ∀ post ∈ posts, ∀ event, verified constructEvent post = .ok event →
        handler.eventStore.retention ≤ post.instant.toMicros := by
  have once : AtMostOnce created ⟨handler, []⟩ posts :=
    ⟨List.nodup_nil, fun eventId member => absurd member List.not_mem_nil⟩
  rw [allSteps_audited_iff]
  exact and_iff_right (dispatched_nodup once dated clock)

end AtMostOnce

/-- Stripe's library on payloads that are the ids of disputes, signed with one word. -/
def sampleConstruct (payload sigHeader : String) : Except ConstructError StripeEvent :=
  if sigHeader = "v1" then
    .ok ⟨payload, "charge.dispute.created", 1786527000, ⟨some (some "pi_1"), none⟩⟩
  else .error (.signatureVerification "No signatures found matching the expected signature")

/-- A signed delivery of an event at the instant of its creation. -/
def samplePost (eventId : String) : WebhookPost :=
  ⟨.ok eventId, "v1", Stamp.sample.moment, Stamp.sample.uuid⟩

/-- A handler over an empty table with a retention in days. -/
def sampleHandler (days : Nat) (admissible : minimumRetention ≤ days * minimumRetention) :
    HandlerState :=
  HandlerState.new ⟨days * minimumRetention, Dict.empty, admissible⟩

private theorem samplePosts_dated {posts : List WebhookPost}
    (samples : ∀ post ∈ posts, ∃ eventId, post = samplePost eventId) :
    ∀ post ∈ posts, Dated sampleConstruct (fun _ => 1786527000) post := by
  -- Every such event was created at the instant of its delivery.
  have reached : (1786527000 : Int) * 1000000 ≤ Stamp.sample.moment.unixMicros := by decide
  intro post member payload event _ constructed
  obtain ⟨eventId, rfl⟩ := samples post member
  simp only [sampleConstruct, samplePost, if_true, Except.ok.injEq] at constructed
  subst constructed
  exact ⟨rfl, reached⟩

/-- An event delivered twice and another one in between, with the default retention. -/
theorem webhook_dispatched_once_redelivered :
    ([samplePost "evt_1", samplePost "evt_2", samplePost "evt_1"].foldl
        (receive sampleConstruct id) ⟨sampleHandler 1 (by decide), []⟩).dispatched.Nodup ∧
      Run.AllSteps (receive sampleConstruct id) (AuditedOnce sampleConstruct id)
        ⟨sampleHandler 1 (by decide), []⟩
        [samplePost "evt_1", samplePost "evt_2", samplePost "evt_1"] := by
  refine (webhook_dispatched_once_iff (sampleHandler 1 (by decide))
    (samplePosts_dated (by simp)) (by simp [samplePost])).mpr ?_
  intro post member event _
  have instant : post.instant = Stamp.sample.moment := by
    simp only [List.mem_cons, List.not_mem_nil, or_false] at member
    rcases member with rfl | rfl | rfl <;> rfl
  rw [instant]
  decide

/-- With a retention of 800000 days a verified event is neither dispatched nor logged. -/
theorem webhook_unlogged_by_long_retention :
    (∀ post ∈ [samplePost "evt_1"], Dated sampleConstruct (fun _ => 1786527000) post) ∧
      [samplePost "evt_1"].Pairwise (fun earlier later =>
        earlier.instant.toMicros ≤ later.instant.toMicros) ∧
      ¬(([samplePost "evt_1"].foldl (receive sampleConstruct id)
          ⟨sampleHandler 800000 (by decide), []⟩).dispatched.Nodup ∧
        Run.AllSteps (receive sampleConstruct id) (AuditedOnce sampleConstruct id)
          ⟨sampleHandler 800000 (by decide), []⟩ [samplePost "evt_1"]) := by
  refine ⟨samplePosts_dated (by simp), by simp, fun both => ?_⟩
  have inRange := (allSteps_audited_iff _ _).mp both.2 (samplePost "evt_1") (by simp)
    ⟨"evt_1", "charge.dispute.created", 1786527000, ⟨some (some "pi_1"), none⟩⟩ (by rfl)
  exact absurd inRange (by decide)

end RoutesPayment

end JolCommerce
